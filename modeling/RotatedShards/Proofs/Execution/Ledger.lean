import RotatedShards.Proofs.Execution.Commands
import RotatedShards.Store.Memory

/-!
# Ledgers

A ledger follows a run of a client and keeps what the client itself forgets: for which
binder each statement was sent, and each binder as it stood when it was executed first. What
a walk sends when it has a turn is sent for the binder that its task was started for.

Results:
* `Ledger.client_run`, `Ledger.first?_run`: what a ledger keeps.
* `Ledger.Valid.step`, `Ledger.Valid.run`: what each command, and so each run, preserves.
* `Ledger.sent_as_first_executed`: what is sent for the binders of a run.
-/

namespace RotatedShards

variable {σ α : Type}

/-- A client and what has happened to it: the binder that each task was started for, each
    statement that was sent and for which binder, and each binder as it stood at its first
    execution, if there was one. -/
structure Ledger (σ α : Type) where
  client : Client σ α
  owners : List (Option Nat) := []
  sent : List (Option Nat × BoundStatement) := []
  first? : Nat → Option (Binder α) := fun _ => none

namespace Ledger

/-- The ledger of a client on a store that nothing has been sent to. -/
def fresh (store : σ) (systemClock : Instant) : Ledger σ α :=
  { client := .fresh store systemClock }

/-- The binder that a command sends statements for: the one that it executes, or the one
    that the task was started for that it waits for or gives a turn. -/
def sender? (l : Ledger σ α) : Client.Command σ α → Option Nat
  | .wait task | .turn task => l.owners[task]?.join
  | command => command.executed?

theorem sender?_of_executed (l : Ledger σ α) {command : Client.Command σ α} {k : Nat}
    (hk : command.executed? = some k) : l.sender? command = some k := by
  cases command with
  | execute binder mode => exact hk
  | start binder mode => exact hk
  | _ => cases hk

section Steps

variable [Backend σ]

/-- The ledger after a command. -/
def step (l : Ledger σ α) (command : Client.Command σ α) : Ledger σ α :=
  let client := (l.client.step command).2
  let tasks := client.engine.tasks.drop l.client.engine.tasks.length
  let sent := client.engine.connection.sent.drop l.client.engine.connection.sent.length
  { client
    owners := l.owners ++ tasks.map fun _ => command.executed?
    sent := l.sent ++ sent.map (l.sender? command, ·)
    first? := fun k =>
      (l.first? k).or (if command.executed? = some k then l.client.binders[k]? else none) }

/-- The ledger after a series of commands. -/
def run (l : Ledger σ α) (commands : List (Client.Command σ α)) : Ledger σ α :=
  commands.foldl step l

theorem client_run (l : Ledger σ α) (commands : List (Client.Command σ α)) :
    (l.run commands).client = (l.client.run commands).2 := by
  induction commands generalizing l with
  | nil => rfl
  | cons command rest ih => exact ih (l.step command)

end Steps

/-- A statement is made by a binder that has been executed, as it stood then. -/
def Attributed (l : Ledger σ α) (sender : Option Nat) (statement : BoundStatement) : Prop :=
  ∃ k b, sender = some k ∧ l.first? k = some b ∧ b.Makes statement

/-- What holds of a ledger after any run: it accounts for all that was sent and for all
    tasks; the binders are sound and go by their positions; those that have been executed
    are as they were then; and what was sent, and what is left of walks, was made by them. -/
structure Valid (l : Ledger σ α) : Prop where
  sent_eq : l.sent.map Prod.snd = l.client.engine.connection.sent
  length_owners : l.owners.length = l.client.engine.tasks.length
  numbered : l.client.Numbered
  sound : ∀ (k : Nat) (b : Binder α), l.client.binders[k]? = some b → b.Sound
  frozen : ∀ (k : Nat) (b : Binder α), l.first? k = some b → l.client.binders[k]? = some b.freeze
  attributed : ∀ entry ∈ l.sent, l.Attributed entry.1 entry.2
  leaves : ∀ t s, l.client.engine.Leaves t s → l.Attributed l.owners[t]?.join s

theorem valid_fresh (store : σ) (systemClock : Instant) :
    (fresh store systemClock : Ledger σ α).Valid where
  sent_eq := rfl
  length_owners := rfl
  numbered := by rintro k b ⟨⟩
  sound := by rintro k b ⟨⟩
  frozen := by rintro k b ⟨⟩
  attributed := by rintro entry ⟨⟩
  leaves := by rintro t s ⟨task, ⟨⟩, -⟩

section Steps

variable [Backend σ] {l : Ledger σ α}

theorem first?_step {command : Client.Command σ α} {k : Nat} {b : Binder α}
    (h : l.first? k = some b) : (l.step command).first? k = some b := by
  show (l.first? k).or _ = _
  rw [h]
  rfl

theorem Attributed.step {command : Client.Command σ α} {sender : Option Nat}
    {statement : BoundStatement} (h : l.Attributed sender statement) :
    (l.step command).Attributed sender statement := by
  obtain ⟨k, b, hk, hb, hmakes⟩ := h
  exact ⟨k, b, hk, first?_step hb, hmakes⟩

namespace Valid

/-- A binder that a command executes is, but for having been executed, what it was at its
    first execution, which may be this one. -/
theorem exists_first (h : l.Valid) {command : Client.Command σ α} {k : Nat}
    (hk : command.executed? = some k) {b : Binder α} (hb : l.client.binders[k]? = some b) :
    ∃ b', (l.step command).first? k = some b' ∧ b'.freeze = b.freeze := by
  cases hfirst : l.first? k with
  | some b' =>
    refine ⟨b', first?_step hfirst, ?_⟩
    have := h.frozen k b' hfirst
    rw [hb] at this
    cases this
    rfl
  | none =>
    refine ⟨b, ?_, rfl⟩
    show (l.first? k).or _ = _
    rw [hfirst, if_pos hk]
    exact hb

/-- What a command issues is attributed to the binder that it sends statements for. -/
theorem attributed_of_issues (h : l.Valid) {command : Client.Command σ α}
    {statement : BoundStatement} (hs : l.client.Issues command statement) :
    (l.step command).Attributed (l.sender? command) statement := by
  rcases hs with ⟨k, b, hk, hb, hmakes⟩ | ⟨task, rfl | rfl, hleft⟩
  · obtain ⟨b', hfirst, hfreeze⟩ := h.exists_first hk hb
    refine ⟨k, b', l.sender?_of_executed hk, hfirst, ?_⟩
    rw [← Binder.makes_freeze, hfreeze]
    exact hmakes
  · exact (h.leaves task statement hleft).step
  · exact (h.leaves task statement hleft).step

theorem frozen_step (h : l.Valid) (command : Client.Command σ α) :
    ∀ k b, (l.step command).first? k = some b →
      (l.step command).client.binders[k]? = some b.freeze := by
  intro k b hfirst
  show (l.client.step command).2.binders[k]? = _
  rw [Client.step_binders h.numbered]
  rcases Option.or_eq_some_iff.mp hfirst with hold | ⟨-, hnew⟩
  · exact Client.Command.onBinders_frozen (h.frozen k b hold)
  · split_ifs at hnew with hk
    exact Client.Command.onBinders_executed hk hnew

theorem binders_step (h : l.Valid) {command : Client.Command σ α}
    (hopen : ∀ q, command.opened? = some q → q.Sound) {k : Nat} {b : Binder α}
    (hb : (l.step command).client.binders[k]? = some b) : b.id = k ∧ b.Sound := by
  have hb : (l.client.step command).2.binders[k]? = some b := hb
  rw [Client.step_binders h.numbered] at hb
  rcases Client.Command.onBinders_cases hb with ⟨b', hb', rfl | ⟨call, rfl⟩⟩ | ⟨q, hq, -, rfl⟩
  · exact ⟨h.numbered k b hb', h.sound k b hb'⟩
  · exact ⟨(b'.id_call call).trans (h.numbered k b' hb'), Binder.sound_call (h.sound k b' hb') call⟩
  · exact ⟨rfl, Binder.sound_fresh (hopen q hq) k⟩

theorem leaves_step (h : l.Valid) (command : Client.Command σ α) (t : Nat) (s : BoundStatement)
    (hleft : (l.step command).client.engine.Leaves t s) :
    (l.step command).Attributed (l.step command).owners[t]?.join s := by
  obtain ⟨n, hgrows, hn⟩ := l.client.step_grows command
  rcases hgrows.leaves t s hleft with hold | ⟨hle, hissued⟩
  · have hlt : t < l.owners.length := by
      obtain ⟨task, htask, -⟩ := hold
      rw [h.length_owners]
      exact (List.getElem?_eq_some_iff.mp htask).1
    rw [Ledger.step, List.getElem?_append_left hlt]
    exact (h.leaves t s hold).step
  · obtain ⟨task, htask, -⟩ := hleft
    have htask : (l.client.step command).2.engine.tasks[t]? = some task := htask
    -- a task that has been added is one of the binder that the command executes
    have howner : (l.step command).owners[t]? = some command.executed? := by
      rw [Ledger.step, List.getElem?_append_right (by rw [h.length_owners]; exact hle),
        List.getElem?_map, List.getElem?_drop, h.length_owners, Nat.add_sub_cancel' hle, htask]
      rfl
    have hattributed := h.attributed_of_issues hissued
    rw [howner]
    cases hk : command.executed? with
    | some k =>
      rw [l.sender?_of_executed hk] at hattributed
      exact hattributed
    | none =>
      have hlt := (List.getElem?_eq_some_iff.mp htask).1
      rw [hgrows.length_tasks, hn hk] at hlt
      omega

/-- What each command preserves. -/
theorem step (h : l.Valid) {command : Client.Command σ α}
    (hopen : ∀ q, command.opened? = some q → q.Sound) : (l.step command).Valid := by
  obtain ⟨n, hgrows, -⟩ := l.client.step_grows command
  obtain ⟨added, hadded, hissued⟩ := hgrows.sent
  have hsent : (l.step command).sent = l.sent ++ added.map (l.sender? command, ·) := by
    rw [Ledger.step, hadded, List.drop_left]
  constructor
  case sent_eq =>
    rw [hsent, List.map_append, List.map_map, h.sent_eq]
    exact (congrArg _ (List.map_id added)).trans hadded.symm
  case length_owners =>
    have hlength := hgrows.length_tasks
    rw [Ledger.step, List.length_append, List.length_map, List.length_drop, h.length_owners]
    show _ = (l.client.step command).2.engine.tasks.length
    omega
  case numbered => exact fun k b hb => (h.binders_step hopen hb).1
  case sound => exact fun k b hb => (h.binders_step hopen hb).2
  case frozen => exact h.frozen_step command
  case attributed =>
    intro entry hentry
    rw [hsent] at hentry
    rcases List.mem_append.mp hentry with hold | hnew
    · exact (h.attributed entry hold).step
    · obtain ⟨statement, hs, rfl⟩ := List.mem_map.mp hnew
      exact h.attributed_of_issues (hissued statement hs)
  case leaves => exact h.leaves_step command

/-- What each run preserves. -/
theorem run (h : l.Valid) {commands : List (Client.Command σ α)}
    (hopen : ∀ command ∈ commands, ∀ q, command.opened? = some q → q.Sound) :
    (l.run commands).Valid := by
  induction commands generalizing l with
  | nil => exact h
  | cons command rest ih =>
    exact ih (h.step (hopen command List.mem_cons_self))
      fun c hc => hopen c (List.mem_cons_of_mem _ hc)

end Valid

theorem first?_run_of_eq_some {k : Nat} {b : Binder α} (h : l.first? k = some b)
    (commands : List (Client.Command σ α)) : (l.run commands).first? k = some b := by
  induction commands generalizing l with
  | nil => exact h
  | cons command rest ih => exact ih (first?_step h)

/-- The ledger has a binder as it stood when it was executed first. -/
theorem first?_run {before after : List (Client.Command σ α)} {command : Client.Command σ α}
    {k : Nat} (hnone : l.first? k = none) (hbefore : ∀ c ∈ before, c.executed? ≠ some k)
    (hk : command.executed? = some k) {b : Binder α}
    (hb : (l.client.run before).2.binders[k]? = some b) :
    (l.run (before ++ command :: after)).first? k = some b := by
  induction before generalizing l with
  | nil =>
    have hfirst : (l.step command).first? k = some b := by
      show (l.first? k).or (if _ then _ else _) = _
      rw [hnone, if_pos hk]
      exact hb
    exact first?_run_of_eq_some hfirst after
  | cons c rest ih =>
    have hstep : (l.step c).first? k = none := by
      show (l.first? k).or (if _ then _ else _) = _
      rw [hnone, if_neg (hbefore c List.mem_cons_self)]
      rfl
    exact ih hstep (fun c' hc' => hbefore c' (List.mem_cons_of_mem _ hc')) hb

/-- Whatever a client is asked for, on binders of queries that were built, and whenever the
    tasks have their turns: each statement that is sent, also for a task whose result is never
    waited for, is sent for a binder that has been executed and carries what that binder held
    at its first execution, to a table of its query; and every change of such a binder is
    refused from then on, for that reason, and leaves everything as it is. -/
theorem sent_as_first_executed (store : σ) (systemClock : Instant)
    {commands : List (Client.Command σ α)}
    (hbuilt : ∀ q, .openBinder q ∈ commands → ∃ d : Definition α, d.build = .ok q)
    (hl : (fresh store systemClock).run commands = l) :
    l.client = ((Client.fresh store systemClock).run commands).2 ∧
      l.sent.map Prod.snd = l.client.engine.connection.sent ∧
      (∀ before command after k b, commands = before ++ command :: after →
        (∀ c ∈ before, c.executed? ≠ some k) → command.executed? = some k →
        ((Client.fresh store systemClock).run before).2.binders[k]? = some b →
          l.first? k = some b) ∧
      (∀ entry ∈ l.sent, ∃ k b,
        entry.1 = some k ∧ l.first? k = some b ∧ b.Carries entry.2) ∧
      ∀ k b, l.first? k = some b → ∀ change,
        l.client.step (.adjust k change) = (.adjusted (.error .alreadyExecuted), l.client) := by
  have hopen : ∀ command ∈ commands, ∀ q, command.opened? = some q → q.Sound := by
    intro command hmem q hq
    cases command with
    | openBinder query =>
      cases hq
      obtain ⟨d, hd⟩ := hbuilt _ hmem
      exact Definition.build_sound hd
    | _ => cases hq
  have hvalid : l.Valid := hl ▸ (valid_fresh store systemClock).run hopen
  refine ⟨hl ▸ client_run _ commands, hvalid.sent_eq, ?_, fun entry hentry => ?_, ?_⟩
  · rintro before command after k b rfl hbefore hk hb
    rw [← hl]
    exact first?_run rfl hbefore hk hb
  · obtain ⟨k, b, hk, hb, hmakes⟩ := hvalid.attributed entry hentry
    have hsound := Binder.sound_of_freeze (hvalid.sound k _ (hvalid.frozen k b hb))
    exact ⟨k, b, hk, hb, hmakes.carries hsound⟩
  · intro k b hb change
    simp only [Client.step, hvalid.frozen k b hb, Client.adjust, Binder.adjust_freeze]
    rfl

end Steps

/-- A read of the first event with a key among those of three hours. -/
def eventByKey : Definition Event :=
  { text := "SELECT key, payload FROM events WHERE key = ?", mapper := Event.mapper
    slots := ["key"], statements := some (Event.selectStatements "events" 3)
    rotation := Resolver.hourly, options := { range := .fixed 3 } }

/-- The read by key, ready to be bound. -/
def keyRead : Query Event := eventByKey.build.toOption.get rfl

/-- The read with the key that it is given first. -/
def boundRead : Binder Event := (Binder.fresh 0 keyRead).after [.adjust (.bind 0 (.text "a"))]

/-- The read is started with one key, and then given another one. It goes on by turns, with
    another read in between, and its result is dropped. -/
def rebinding : List (Client.Command MemoryStore Event) :=
  [.openBinder keyRead, .adjust 0 (.bind 0 (.text "a")), .start 0 .one,
    .adjust 0 (.bind 0 (.text "b")), .turn 0, .openBinder keyRead, .execute 1 .one, .turn 0]

/-- The third hour, where only the second one has an event, with the first key. -/
def secondHour : Ledger MemoryStore Event :=
  fresh ⟨[{}, { events := [⟨"a", "1"⟩] }, {}]⟩ (.ofMillis 10000000)

/-- Both walks go back to the second hour, the first of them with its first key. -/
theorem sent_as_first_executed_rebinding :
    eventByKey.build = .ok keyRead ∧
      (secondHour.run rebinding).sent.map
          (fun entry => (entry.1, entry.2.shard, entry.2.text)) =
        [(some 0, ⟨2⟩, "SELECT key, payload FROM events_2 WHERE key = ?"),
          (some 1, ⟨2⟩, "SELECT key, payload FROM events_2 WHERE key = ?"),
          (some 1, ⟨1⟩, "SELECT key, payload FROM events_1 WHERE key = ?"),
          (some 0, ⟨1⟩, "SELECT key, payload FROM events_1 WHERE key = ?")] ∧
      (∀ entry ∈ (secondHour.run rebinding).sent, entry.1 = some 0 →
        boundRead.Carries entry.2) ∧
      (secondHour.run rebinding).client.step (.adjust 0 (.bind 7 .null)) =
        (.adjusted (.error .alreadyExecuted), (secondHour.run rebinding).client) := by
  have hbuilt : ∀ q, .openBinder q ∈ rebinding → ∃ d : Definition Event, d.build = .ok q := by
    intro q hq
    obtain rfl : q = keyRead := by simpa [rebinding] using hq
    exact ⟨eventByKey, rfl⟩
  obtain ⟨-, -, hfirst, hsent, hrefused⟩ := sent_as_first_executed _ _ hbuilt
    (rfl : secondHour.run rebinding = _)
  have hb : (secondHour.run rebinding).first? 0 = some boundRead :=
    hfirst [.openBinder keyRead, .adjust 0 (.bind 0 (.text "a"))] (.start 0 .one) _ 0 _
      rfl (by simp [Client.Command.executed?]) rfl rfl
  refine ⟨rfl, rfl, fun entry hentry hsender => ?_, hrefused 0 _ hb _⟩
  obtain ⟨k, b, hk, hkb, hcarries⟩ := hsent entry hentry
  rw [hsender] at hk
  cases hk
  rw [hb] at hkb
  cases hkb
  exact hcarries

end Ledger

end RotatedShards
