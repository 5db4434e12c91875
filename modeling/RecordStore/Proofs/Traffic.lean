/-
RecordStore.Proofs.Traffic -- gets and saves of one adapter, under way at the same time

A get goes through the shared reads of its adapter, and a save sends a request of
its own.  What an adapter asks for is what its plans say, and the client counts a
request when it is sent and carries it out at one instant later on
(`Emulator.complete`); what happens in between, and in which order, is left open.
The task of a read gets the answer of the client to its own request and no other
one (`StandsFor`), and a save returns what its plan concludes.

`move_of_step` lists what steps can do.  Two invariants tie a state to the steps
behind it.  `Sourced` says where the result of a fetch comes from: the client
looked at the item of the key after the request was sent and while its task waited.
`Ledger` says what the items are: the last ones that saves wrote, and a save that
returned well has written.
-/
import RecordStore.Proofs.Contents
import RecordStore.Proofs.SharedRead.Course
import RecordStore.Timeline

namespace RecordStore.Traffic

set_option autoImplicit false

open RecordStore.Wire RecordStore.SharedRead

/-! ## The system -/

/-- The request of a shared read. -/
inductive Fetch
  | unsent
  | sent
  /-- The client looked, and answers this. -/
  | seen (outcome : Except WireError ItemFound)

/-- A save with a request. -/
structure Saving where
  key : String
  write : ItemWrite
  conclude : Except StoreError ItemWritten → Except StoreError Unit
  /-- What the client answers, once the item is written. -/
  outcome? : Option (Except WireError ItemWritten)
  /-- What the save returned, once it has. -/
  result? : Option (Except StoreError Unit)

/-- The client, the shared reads with their requests, and all saves with requests, oldest first. -/
structure State where
  client : Emulator
  reads : Program.State
  fetches : CallId → Fetch
  saves : List Saving

inductive Step
  | get (m : Moment) (key : String)
  /-- A caller or a task of a shared read goes on. -/
  | go (e : Program.Step)
  /-- The task of a read sends its request. -/
  | dispatch (call : CallId)
  /-- The client looks for the item of a read. -/
  | look (call : CallId)
  /-- The task of a read gets its answer. -/
  | receive (call : CallId)
  | save (m : Moment) (key : String) (record : Option Record)
  /-- The client writes the item of a save. -/
  | write (save : Nat)
  /-- A save returns what came of its request. -/
  | conclude (save : Nat)
  /-- A save returns because its context is over. -/
  | interrupt (save : Nat) (reason : StopReason)

/-- Callers ask with their gets, and fetches end with answers of the client; everything else callers
and tasks do by themselves. -/
def goesAlone : Program.Step → Bool
  | .ask .. | .settle _ (.fetched _) => false
  | _ => true

namespace State

/-- Nothing is under way. -/
def initial (client : Emulator) : State := ⟨client, .initial, fun _ => .unsent, []⟩

/-- The request of a read is sent. -/
def dispatch (s : State) (id : CallId) (request : ItemRead) : State :=
  { s with
    client := s.client.noteCall (.read request)
    fetches := Function.update s.fetches id .sent }

/-- The client looks. -/
def look (s : State) (id : CallId) (request : ItemRead) : State :=
  let (outcome, client) := s.client.complete (.read request)
  { s with client, fetches := Function.update s.fetches id (.seen outcome) }

/-- The request of a save is sent. -/
def save (s : State) (saving : Saving) : State :=
  { s with client := s.client.noteCall (.write saving.write), saves := s.saves ++ [saving] }

/-- The client writes. -/
def write (s : State) (n : Nat) (request : ItemWrite) : State :=
  let (outcome, client) := s.client.complete (.write request)
  { s with client, saves := s.saves.modify n fun v => { v with outcome? := some outcome } }

/-- A save returns. -/
def finish (s : State) (n : Nat) (result : Except StoreError Unit) : State :=
  { s with saves := s.saves.modify n fun v => { v with result? := some result } }

/-- The state after a step, if the step can be taken.  Operations that end at once leave nothing
behind. -/
def step? (a : Adapter) (s : State) : Step → Option State
  | .get m key =>
    match a.plan m (.get key) with
    | .sharedRead _ => do some { s with reads := ← s.reads.step? (.ask key m.stop?) }
    | _ => some s
  | .go e =>
    if goesAlone e then do some { s with reads := ← s.reads.step? e } else none
  | .dispatch id => do
    let call ← s.reads.shared.calls[id]?
    match (s.reads.tasks id).point, s.fetches id with
    | .fetching, .unsent => some (s.dispatch id (a.readRequest call.key))
    | _, _ => none
  | .look id => do
    let call ← s.reads.shared.calls[id]?
    match (s.reads.tasks id).point, s.fetches id with
    | .fetching, .sent => some (s.look id (a.readRequest call.key))
    | _, _ => none
  | .receive id =>
    match s.fetches id with
    | .seen outcome => do
      some { s with reads := ← s.reads.step? (.settle id (Timeline.endingOf (some outcome))) }
    | _ => none
  | .save m key record =>
    match a.plan m (.save key record) with
    | .exchange (.write request) conclude =>
      some (s.save ⟨key, request, fun outcome => (conclude outcome).result, none, none⟩)
    | _ => some s
  | .write n => do
    let saving ← s.saves[n]?
    match saving.outcome? with
    | none => some (s.write n saving.write)
    | some _ => none
  | .conclude n => do
    let saving ← s.saves[n]?
    match saving.outcome?, saving.result? with
    | some outcome, none =>
      some (s.finish n (saving.conclude (Sent.answered (r := .write saving.write) outcome).outcome))
    | _, _ => none
  | .interrupt n reason => do
    let saving ← s.saves[n]?
    match saving.result? with
    | none =>
      some (s.finish n (saving.conclude (Sent.stopped (r := .write saving.write) reason).outcome))
    | some _ => none

/-- The state after a sequence of steps, if all of them can be taken. -/
def run? (a : Adapter) (s : State) (steps : List Step) : Option State := steps.foldlM (step? a) s

end State

/-! ## What a step can do -/

/-- The step of a caller or a task of a shared read that a step stands for. -/
inductive StandsFor (s : State) : Step → Program.Step → Prop
  | get {m : Moment} {key : String} : StandsFor s (.get m key) (.ask key none)
  | go {e : Program.Step} (alone : goesAlone e = true) : StandsFor s (.go e) e
  | receive {id : CallId} {outcome : Except WireError ItemFound}
      (seen : s.fetches id = .seen outcome) :
      StandsFor s (.receive id) (.settle id (Timeline.endingOf (some outcome)))

/-- A save that was sent has the item of its key for the table, and fails when its request does. -/
structure Saving.Sound (a : Adapter) (saving : Saving) : Prop where
  table : saving.write.table = a.table
  key : Emulator.itemKey saving.write.item = .ok saving.key
  fails : ∀ e, saving.conclude (.error e) = .error e

/-- What a step can do. -/
inductive Move (a : Adapter) (s : State) : Step → State → Prop
  | refuseGet {m : Moment} {key : String} : Move a s (.get m key) s
  | refuseSave {m : Moment} {key : String} {record : Option Record} :
      Move a s (.save m key record) s
  | read {e : Step} {e' : Program.Step} {reads : Program.State} (stands : StandsFor s e e')
      (taken : s.reads.step? e' = some reads) : Move a s e { s with reads }
  | dispatch {id : CallId} {call : Call} (found : s.reads.shared.calls[id]? = some call)
      (unsent : s.fetches id = .unsent) :
      Move a s (.dispatch id) (s.dispatch id (a.readRequest call.key))
  | look {id : CallId} {call : Call} (found : s.reads.shared.calls[id]? = some call)
      (here : (s.reads.tasks id).point = .fetching) (sent : s.fetches id = .sent) :
      Move a s (.look id) (s.look id (a.readRequest call.key))
  | save {m : Moment} {key : String} {record : Option Record} {saving : Saving}
      (sound : saving.Sound a) (pending : saving.outcome? = none)
      (unfinished : saving.result? = none) : Move a s (.save m key record) (s.save saving)
  | write {n : Nat} {saving : Saving} (found : s.saves[n]? = some saving) :
      Move a s (.write n) (s.write n saving.write)
  | conclude {n : Nat} {saving : Saving} {outcome : Except WireError ItemWritten}
      (found : s.saves[n]? = some saving) (written : saving.outcome? = some outcome)
      (result : Except StoreError Unit) : Move a s (.conclude n) (s.finish n result)
  | interrupt {n : Nat} {saving : Saving} (found : s.saves[n]? = some saving)
      (reason : StopReason) : Move a s (.interrupt n reason)
        (s.finish n (saving.conclude (.error (.cancelled reason))))

theorem move_of_get {a : Adapter} {s t : State} {m : Moment} {key : String}
    (taken : s.step? a (.get m key) = some t) : Move a s (.get m key) t := by
  have sound := a.plan_sound m (.get key)
  unfold State.step? at taken
  dsimp only at taken
  split at taken
  · next request planned =>
    rw [planned] at sound
    rw [show m.stop? = none from sound] at taken
    obtain ⟨reads, asked, taken⟩ := Option.bind_eq_some_iff.1 taken
    obtain rfl := Option.some.inj taken
    exact .read .get asked
  · obtain rfl := Option.some.inj taken
    exact .refuseGet

theorem move_of_save {a : Adapter} {s t : State} {m : Moment} {key : String}
    {record : Option Record} (taken : s.step? a (.save m key record) = some t) :
    Move a s (.save m key record) t := by
  have planned : a.plan m (.save key record) = a.planSave m key record := rfl
  unfold State.step? at taken
  dsimp only at taken
  rw [planned] at taken
  unfold Adapter.planSave at taken
  cases saved : a.saveItem m key record with
  | error e =>
    rw [saved] at taken
    obtain rfl := Option.some.inj taken
    exact .refuseSave
  | ok item =>
    rw [saved] at taken
    obtain ⟨kept, -, rfl⟩ := Adapter.saveItem_eq_ok saved
    obtain rfl := Option.some.inj taken
    exact .save ⟨rfl, Emulator.itemKey_item kept key, fun _ => rfl⟩ rfl rfl

/-- Every step that can be taken is one of the moves. -/
theorem move_of_step {a : Adapter} {s t : State} {e : Step} (taken : s.step? a e = some t) :
    Move a s e t := by
  cases e with
  | get m key => exact move_of_get taken
  | save m key record => exact move_of_save taken
  | go e =>
    obtain ⟨alone, taken⟩ := Option.ite_none_right_eq_some.1 taken
    obtain ⟨reads, went, taken⟩ := Option.bind_eq_some_iff.1 taken
    obtain rfl := Option.some.inj taken
    exact .read (.go alone) went
  | dispatch id =>
    obtain ⟨call, found, taken⟩ := Option.bind_eq_some_iff.1 taken
    split at taken
    · next unsent =>
      obtain rfl := Option.some.inj taken
      exact .dispatch found unsent
    · cases taken
  | look id =>
    obtain ⟨call, found, taken⟩ := Option.bind_eq_some_iff.1 taken
    split at taken
    · next here sent =>
      obtain rfl := Option.some.inj taken
      exact .look found here sent
    · cases taken
  | receive id =>
    unfold State.step? at taken
    dsimp only at taken
    split at taken
    · next outcome seen =>
      obtain ⟨reads, settled, taken⟩ := Option.bind_eq_some_iff.1 taken
      obtain rfl := Option.some.inj taken
      exact .read (.receive seen) settled
    · cases taken
  | write n =>
    obtain ⟨saving, found, taken⟩ := Option.bind_eq_some_iff.1 taken
    split at taken
    · obtain rfl := Option.some.inj taken
      exact .write found
    · cases taken
  | conclude n =>
    obtain ⟨saving, found, taken⟩ := Option.bind_eq_some_iff.1 taken
    split at taken
    · next outcome written _ =>
      obtain rfl := Option.some.inj taken
      exact .conclude found written _
    · cases taken
  | interrupt n reason =>
    obtain ⟨saving, found, taken⟩ := Option.bind_eq_some_iff.1 taken
    split at taken
    · obtain rfl := Option.some.inj taken
      exact .interrupt found reason
    · cases taken

/-! ## What saves wrote -/

/-- The key and the item of a save. -/
def State.saved? (s : State) (n : Nat) : Option (String × Item) :=
  (s.saves[n]?).map fun saving => (saving.key, saving.write.item)

/-- The item that a step writes under a key. -/
def State.wrote? (s : State) (key : String) : Step → Option Item
  | .write n => (s.saved? n).bind fun e => if e.1 = key then some e.2 else none
  | _ => none

/-- The items that were written under a key, oldest first. -/
def State.wrote (s : State) (key : String) (steps : List Step) : List Item :=
  steps.filterMap (s.wrote? key)

/-- What holds of the client and the saves after the steps of a run. -/
structure Ledger (a : Adapter) (client : Emulator) (steps : List Step) (s : State) : Prop where
  willing : s.client.failure? = none
  sound : ∀ {n : Nat} {saving : Saving}, s.saves[n]? = some saving → saving.Sound a
  known : ∀ {n : Nat}, .write n ∈ steps → n < s.saves.length
  written : ∀ {n : Nat} {saving : Saving}, s.saves[n]? = some saving → saving.outcome?.isSome →
    .write n ∈ steps
  /-- A save that returned well has its answer from the client. -/
  concluded : ∀ {n : Nat} {saving : Saving}, s.saves[n]? = some saving →
    saving.result? = some (.ok ()) → saving.outcome?.isSome
  /-- The item under a key is the last one that was written there. -/
  item : ∀ key, s.client.item? a.table key =
    ((s.wrote key steps).getLast?).or (client.item? a.table key)

theorem ledger_initial (a : Adapter) {client : Emulator} (willing : client.failure? = none) :
    Ledger a client [] (.initial client) where
  willing := willing
  sound found := by simp [State.initial] at found
  known member := by cases member
  written found := by simp [State.initial] at found
  concluded found := by simp [State.initial] at found
  item _ := rfl

/-- Saves keep their keys and items. -/
theorem saved?_modify (s : State) (n m : Nat) {f : Saving → Saving}
    (same : ∀ v, (f v).key = v.key ∧ (f v).write = v.write) :
    { s with saves := s.saves.modify m f }.saved? n = s.saved? n := by
  unfold State.saved?
  dsimp only
  rw [List.getElem?_modify]
  cases s.saves[n]? with
  | none => simp
  | some v => by_cases h : m = n <;> simp [h, same v]

theorem saved?_of_move {a : Adapter} {s t : State} {e : Step} (move : Move a s e t) {n : Nat}
    (known : n < s.saves.length) : t.saved? n = s.saved? n := by
  cases move with
  | refuseGet | refuseSave | read | dispatch | look => rfl
  | save =>
    unfold State.saved? State.save
    rw [List.getElem?_append_left known]
  | write => exact saved?_modify _ _ _ fun _ => ⟨rfl, rfl⟩
  | conclude | interrupt => exact saved?_modify _ _ _ fun _ => ⟨rfl, rfl⟩

theorem wrote_concat (s : State) (key : String) (steps : List Step) (e : Step) :
    s.wrote key (steps ++ [e]) = s.wrote key steps ++ (s.wrote? key e).toList := by
  unfold State.wrote
  rw [List.filterMap_append]
  cases h : s.wrote? key e <;> simp [h]

theorem wrote_of_move {a : Adapter} {client : Emulator} {steps : List Step} {s t : State} {e : Step}
    (ledger : Ledger a client steps s) (move : Move a s e t) (key : String) :
    t.wrote key steps = s.wrote key steps := by
  refine List.filterMap_congr fun e' member => ?_
  cases e' with
  | write n => rw [State.wrote?, saved?_of_move move (ledger.known member), State.wrote?]
  | _ => rfl

section

variable {a : Adapter} {client : Emulator} {steps : List Step} {s t : State} {e : Step}

/-- A step that neither writes nor changes what is there. -/
theorem item_of_kept (ledger : Ledger a client steps s) (move : Move a s e t)
    (silent : ∀ key, t.wrote? key e = none) (same : t.client.tables = s.client.tables)
    (key : String) :
    t.client.item? a.table key =
      ((t.wrote key (steps ++ [e])).getLast?).or (client.item? a.table key) := by
  rw [wrote_concat, silent, Option.toList_none, List.append_nil, wrote_of_move ledger move,
    ← ledger.item key, Emulator.item?, Emulator.item?, Emulator.table, Emulator.table, same]

theorem item_of_write (ledger : Ledger a client steps s) {n : Nat} {saving : Saving}
    (found : s.saves[n]? = some saving) (key : String) :
    (s.write n saving.write).client.item? a.table key =
      (((s.write n saving.write).wrote key (steps ++ [.write n])).getLast?).or
        (client.item? a.table key) := by
  have move : Move a s (.write n) (s.write n saving.write) := .write found
  have sound := ledger.sound found
  have wrote : (s.write n saving.write).wrote? key (.write n) =
      if saving.key = key then some saving.write.item else none := by
    rw [State.wrote?, saved?_of_move move (List.getElem?_eq_some_iff.1 found).1, State.saved?,
      found]
    rfl
  have put : (s.write n saving.write).client.item? a.table key =
      if key = saving.key then some saving.write.item else s.client.item? a.table key := by
    show (s.client.complete (.write saving.write)).2.item? a.table key = _
    rw [Emulator.complete_write ledger.willing sound.key, sound.table]
    refine (Emulator.item?_insert s.client a.table _ key _ _ _).trans ?_
    split
    · next same => rw [same, Dict.get?_insert_self]
    · next different => rw [Dict.get?_insert_ne _ different]; rfl
  rw [put, wrote_concat, wrote_of_move ledger move, wrote]
  by_cases same : key = saving.key
  · simp [same]
  · simp [same, Ne.symm same, ledger.item key]

/-- A save before and after a step. -/
structure Saving.Lasts (n : Nat) (e : Step) (before after : Saving) : Prop where
  key : after.key = before.key
  write : after.write = before.write
  conclude : after.conclude = before.conclude
  outcome : after.outcome?.isSome → before.outcome?.isSome ∨ e = .write n
  result : after.result? = some (.ok ()) →
    before.result? = some (.ok ()) ∨ before.outcome?.isSome
  keepsOutcome : before.outcome?.isSome → after.outcome?.isSome

theorem Saving.Lasts.refl (n : Nat) (e : Step) (saving : Saving) : Saving.Lasts n e saving saving :=
  ⟨rfl, rfl, rfl, .inl, .inl, id⟩

/-- A save after a step was there before it, or was just sent. -/
theorem saving_of_move (ledger : Ledger a client steps s) (move : Move a s e t) {n : Nat}
    {saving : Saving} (found : t.saves[n]? = some saving) :
    (∃ before, s.saves[n]? = some before ∧ Saving.Lasts n e before saving) ∨
      (saving.Sound a ∧ saving.outcome? = none ∧ saving.result? = none) := by
  have kept : s.saves[n]? = some saving →
      ∃ before, s.saves[n]? = some before ∧ Saving.Lasts n e before saving :=
    fun found => ⟨saving, found, .refl n e saving⟩
  -- One save changed, and the others are as they were.
  have changed : ∀ {m : Nat} {was : Saving} {f : Saving → Saving}, s.saves[m]? = some was →
      (n = m → Saving.Lasts n e was (f was)) → (s.saves.modify m f)[n]? = some saving →
        ∃ before, s.saves[n]? = some before ∧ Saving.Lasts n e before saving := by
    intro m was f there lasts found
    rw [List.getElem?_modify] at found
    by_cases same : n = m
    · subst same
      obtain rfl : f was = saving := by simpa [there] using found
      exact ⟨was, there, lasts rfl⟩
    · exact kept (by simpa [Ne.symm same] using found)
  cases move with
  | refuseGet | refuseSave | read | dispatch | look => exact .inl (kept found)
  | save sound pending unfinished =>
    obtain found | ⟨-, rfl⟩ := getElem?_concat_cases found
    · exact .inl (kept found)
    · exact .inr ⟨sound, pending, unfinished⟩
  | write there =>
    exact .inl (changed there (fun same => ⟨rfl, rfl, rfl, fun _ => .inr (same ▸ rfl), .inl,
      fun _ => rfl⟩) found)
  | conclude there written result =>
    exact .inl (changed there (fun _ => ⟨rfl, rfl, rfl, .inl,
      fun _ => .inr (by rw [written]; rfl), id⟩) found)
  | interrupt there reason =>
    refine .inl (changed there (fun _ => ⟨rfl, rfl, rfl, .inl, fun returned => ?_, id⟩) found)
    simp [(ledger.sound there).fails] at returned

theorem willing_of_move (ledger : Ledger a client steps s) (move : Move a s e t) :
    t.client.failure? = none := by
  cases move with
  | refuseGet | refuseSave | read | dispatch | save | conclude | interrupt => exact ledger.willing
  | @look id call =>
    show (s.client.complete (.read (a.readRequest call.key))).2.failure? = none
    rw [Adapter.readRequest, Emulator.complete_read ledger.willing]
    exact ledger.willing
  | @write n saving found =>
    show (s.client.complete (.write saving.write)).2.failure? = none
    rw [Emulator.complete_write ledger.willing (ledger.sound found).key]
    exact ledger.willing

theorem item_of_move (ledger : Ledger a client steps s) (move : Move a s e t) (key : String) :
    t.client.item? a.table key =
      ((t.wrote key (steps ++ [e])).getLast?).or (client.item? a.table key) := by
  cases move with
  | refuseGet => exact item_of_kept ledger .refuseGet (fun _ => rfl) rfl key
  | refuseSave => exact item_of_kept ledger .refuseSave (fun _ => rfl) rfl key
  | read stands taken =>
    have move : Move a s e _ := .read stands taken
    cases stands <;> exact item_of_kept ledger move (fun _ => rfl) rfl key
  | dispatch found unsent =>
    exact item_of_kept ledger (.dispatch found unsent) (fun _ => rfl) rfl key
  | @look id call found here sent =>
    refine item_of_kept ledger (.look found here sent) (fun _ => rfl) ?_ key
    show (s.client.complete (.read (a.readRequest call.key))).2.tables = _
    rw [Adapter.readRequest, Emulator.complete_read ledger.willing]
  | save sound pending unfinished =>
    exact item_of_kept ledger (.save sound pending unfinished) (fun _ => rfl) rfl key
  | write found => exact item_of_write ledger found key
  | conclude found written result =>
    exact item_of_kept ledger (.conclude found written result) (fun _ => rfl) rfl key
  | interrupt found reason =>
    exact item_of_kept ledger (.interrupt found reason) (fun _ => rfl) rfl key

theorem length_saves_of_move (move : Move a s e t) : s.saves.length ≤ t.saves.length := by
  cases move with
  | refuseGet | refuseSave | read | dispatch | look => exact Nat.le_refl _
  | save => simp [State.save]
  | write => simp [State.write]
  | conclude | interrupt => simp [State.finish]

theorem ledger_of_move (ledger : Ledger a client steps s) (move : Move a s e t) :
    Ledger a client (steps ++ [e]) t := by
  constructor
  case willing => exact willing_of_move ledger move
  case sound =>
    intro n saving found
    obtain ⟨before, was, lasts⟩ | ⟨sound, -⟩ := saving_of_move ledger move found
    · have sound := ledger.sound was
      exact ⟨lasts.write ▸ sound.table, lasts.write ▸ lasts.key ▸ sound.key,
        lasts.conclude ▸ sound.fails⟩
    · exact sound
  case known =>
    intro n member
    refine Nat.lt_of_lt_of_le ?_ (length_saves_of_move move)
    obtain member | member := List.mem_append.1 member
    · exact ledger.known member
    · obtain rfl := List.mem_singleton.1 member
      cases move with
      | write found => exact (List.getElem?_eq_some_iff.1 found).1
      | read stands => cases stands
  case written =>
    intro n saving found answered
    obtain ⟨before, was, lasts⟩ | ⟨-, pending, -⟩ := saving_of_move ledger move found
    · obtain answered | rfl := lasts.outcome answered
      · exact List.mem_append_left _ (ledger.written was answered)
      · exact List.mem_append_right _ (List.mem_singleton_self _)
    · simp [pending] at answered
  case concluded =>
    intro n saving found returned
    obtain ⟨before, was, lasts⟩ | ⟨-, -, unfinished⟩ := saving_of_move ledger move found
    · obtain returned | answered := lasts.result returned
      · exact lasts.keepsOutcome (ledger.concluded was returned)
      · exact lasts.keepsOutcome answered
    · simp [unfinished] at returned
  case item => exact item_of_move ledger move

end

theorem ledger_of_trace {a : Adapter} {client : Emulator} (willing : client.failure? = none)
    {steps : List Step} {s : State} (trace : Trace (State.step? a) (.initial client) steps s) :
    Ledger a client steps s := by
  induction trace with
  | nil => exact ledger_initial a willing
  | snoc _ taken ih => exact ledger_of_move ih (move_of_step taken)

end RecordStore.Traffic
