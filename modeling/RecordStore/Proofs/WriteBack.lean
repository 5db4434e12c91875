/-
RecordStore.Proofs.WriteBack -- what was read is written back

A record that a store returns holds the text and the expiry that the store keeps
under its key (`Holdings.Keeps`), because in a store that was only operated on
everything is kept as a record makes it (`Holdings.Proper`).  Writing the record
back puts just that entry, which changes nothing, and a store of the other kind
that is given the record keeps the same.
-/
import RecordStore.Proofs.Atomicity
import RecordStore.Proofs.Kept

namespace RecordStore

set_option autoImplicit false

open RecordStore.Wire

/-! ## Stores that were only operated on -/

/-- The store began empty, an adapter without a default expiry and over an emulator, and was only
operated on since, at any times of day and under any contexts. -/
inductive World.Operated : World Client → Prop
  | reference {w : World Client} {container : String} (store : w.store = .reference container ∅) :
      Operated w
  | adapted {w : World Client} {adapter : Adapter} {latency : Nat}
      (plain : adapter.defaultTtl = none)
      (store : w.store = .adapted adapter (.emulator (.empty latency)) .initial) : Operated w
  | visit {w : World Client} (before : Operated w) (v : Visit) (range : v.op.ExpiriesFit) :
      Operated (w.visit v).2

namespace Holdings

/-- Everything is kept as a record makes it, with an expiry that is a positive timestamp, if it has
one, and only the expiry of a record is written. -/
def Proper : Holdings → Prop
  | .contents s => ∀ key kept, s.get? key = some kept → kept.Fits
  | .tables adapter all => adapter.defaultTtl = none ∧
      ∀ key item, ((all.get? adapter.table).getD ∅).get? key = some item →
        ∃ kept : Stored, item = kept.item key ∧ kept.Fits

variable {held : Holdings}

theorem Proper.expiryAt (proper : held.Proper) (time : Timestamp) :
    held.expiryAt time = Record.expiry? := by
  cases held with
  | contents s => rfl
  | tables adapter all => exact Adapter.expiryFor_of_plain proper.1 time

theorem Proper.put (proper : held.Proper) {entries : List (String × Stored)}
    (fit : ∀ e ∈ entries, e.2.Fits) : (held.put entries).Proper := by
  cases held with
  | contents s => exact Dict.putAll_induction (P := fun _ (kept : Stored) => kept.Fits) fit proper
  | tables adapter all =>
    refine ⟨proper.1, fun key item found => ?_⟩
    rw [Emulator.get?_fill] at found
    refine Dict.putAll_induction
      (P := fun key item => ∃ kept : Stored, item = kept.item key ∧ kept.Fits) ?_ proper.2 key item
      found
    intro e member
    obtain ⟨entry, among, rfl⟩ := List.mem_map.1 member
    exact ⟨entry.2, rfl, fit entry among⟩

/-- What a read finds is kept. -/
theorem Proper.has_of_get (proper : held.Proper) {time : Timestamp} {key : String} {r : Record}
    (found : held.get time key = .ok r) :
    ∃ kept : Stored, held.Has key kept ∧ kept.Fits ∧ r = .ofText key kept.text kept.expiry := by
  cases held with
  | contents s =>
    rw [get, Reference.lookup_eq, Reference.keptRecord?] at found
    cases there : s.get? key with
    | none =>
      rw [there] at found
      cases found
    | some kept =>
      rw [there, Option.map_some, Option.filter] at found
      split at found
      · cases found
        exact ⟨kept, there, proper key kept there, rfl⟩
      · cases found
  | tables adapter all =>
    cases there : ((all.get? adapter.table).getD ∅).get? key with
    | none =>
      rw [get, there] at found
      cases found
    | some item =>
      obtain ⟨kept, rfl, fits⟩ := proper.2 key item there
      have has : (tables adapter all).Has key kept := there
      rw [has.get_tables fits time] at found
      cases found
      exact ⟨kept, there, fits, rfl⟩

/-- The text and the expiry of a record are kept under its key. -/
structure Keeps (held : Holdings) (r : Record) : Prop where
  named : Text.isBlankText r.key = false
  kept : ∃ text, r.value = .encoded text ∧ held.Has r.key ⟨text, r.expiry⟩ ∧
    (⟨text, r.expiry⟩ : Stored).Fits

theorem Proper.keeps_of_get (proper : held.Proper) {time : Timestamp} {key : String} {r : Record}
    (named : Text.isBlankText key = false) (found : held.get time key = .ok r) :
    r.key = key ∧ held.Keeps r := by
  obtain ⟨kept, has, fits, rfl⟩ := proper.has_of_get found
  exact ⟨rfl, named, kept.text, rfl, has, fits⟩

/-- A record that is kept makes the entry that is there. -/
theorem Keeps.makes_entry {r : Record} (keeps : held.Keeps r) :
    ∃ text, r.encode = .ok text ∧ r.entry? r.key r.expiry? = some (r.key, ⟨text, r.expiry⟩) ∧
      held.Has r.key ⟨text, r.expiry⟩ := by
  obtain ⟨text, value, has, fits⟩ := keeps.kept
  have encoded : r.encode = .ok text := by rw [Record.encode, value]
  have own : r.expiry? = r.expiry := fits.filter
  refine ⟨text, encoded, ?_, has⟩
  rw [Record.entry?, if_neg (by simp [keeps.named]), encoded, own]

end Holdings

theorem World.Operated.holds {w : World Client} (operated : w.Operated) :
    ∃ held latency, w.Holds held latency ∧ held.Proper := by
  induction operated with
  | reference store => exact ⟨_, 0, .reference store, fun _ _ found => nomatch found⟩
  | @adapted w adapter latency plain store =>
    have serves : w.Serves adapter (.empty latency) := ⟨.initial, store, rfl⟩
    exact ⟨_, latency, .adapted serves rfl, plain, fun _ _ found => nomatch found⟩
  | visit before v range ih =>
    obtain ⟨held, latency, holds, proper⟩ := ih
    obtain ⟨result, entries, written, -, after⟩ := holds.puts v
    rw [proper.expiryAt] at written
    exact ⟨_, latency, after, proper.put fun e member => range.writes e (written member)⟩

/-! ## Records that were read -/

namespace World

/-- A record that a read of the store returns, at some time of day and under some context. -/
inductive Returns (w : World Client) : Record → Prop
  | get {time : Timestamp} {life : Instant → Lifespan} {key : String} {r : Record}
      (read : (w.visit ⟨time, life, .get key⟩).1 = some (.ok r)) : Returns w r
  | bulkGet {time : Timestamp} {life : Instant → Lifespan} {keys : List String}
      {records : Records} {r : Record}
      (read : (w.visit ⟨time, life, .bulkGet keys⟩).1 = some (.ok records))
      (among : r ∈ records) : Returns w r

/-- An operation that writes back what a read of the store returns. -/
inductive WritesBack (w : World Client) : Operation → Prop
  | save {time : Timestamp} {life : Instant → Lifespan} {key : String} {r : Record}
      (read : (w.visit ⟨time, life, .get key⟩).1 = some (.ok r)) : WritesBack w (.save key (some r))
  | bulkSave {time : Timestamp} {life : Instant → Lifespan} {keys : List String}
      {records : Records}
      (read : (w.visit ⟨time, life, .bulkGet keys⟩).1 = some (.ok records)) :
      WritesBack w (.bulkSave records)

variable {w : World Client} {held : Holdings} {latency : Nat}

/-- What is returned is what some single read is answered with. -/
theorem Holds.returns_iff (holds : w.Holds held latency) (r : Record) :
    w.Returns r ↔
      ∃ time key, Text.isBlankText key = false ∧ held.get time key = .ok r := by
  constructor
  · intro returns
    cases returns with
    | get read =>
      obtain ⟨named, found⟩ := holds.get_of_ok read
      exact ⟨_, _, named, found⟩
    | bulkGet read among =>
      obtain ⟨named, rfl⟩ := holds.bulkGet_of_ok read
      obtain ⟨key, requested, found⟩ := List.mem_filterMap.1 among
      exact ⟨_, key, named key (List.mem_eraseDups.1 requested), ok_of_toOption found⟩
  · rintro ⟨time, key, named, found⟩
    have read := holds.visit_get time (.deadline latency 0) named
    exact .get (read.trans (congrArg some found))

theorem Returns.keeps {r : Record} (returns : w.Returns r) (holds : w.Holds held latency)
    (proper : held.Proper) : held.Keeps r := by
  obtain ⟨time, key, named, found⟩ := (holds.returns_iff r).1 returns
  exact (proper.keeps_of_get named found).2

end World

/-! ## Writing back -/

/-- A write whose entries are kept already, and if it is a save, then of a record that can be
stored. -/
structure Operation.Repeats (held : Holdings) (op : Operation) : Prop where
  write : op.IsWrite
  storable : op.Storable
  has : ∀ e ∈ op.writes Record.expiry?, held.Has e.1 e.2

theorem Holdings.Keeps.repeats_save {held : Holdings} {r : Record} (keeps : held.Keeps r) :
    (Operation.save r.key (some r)).Repeats held := by
  obtain ⟨text, encoded, made, has⟩ := keeps.makes_entry
  refine ⟨trivial, ⟨keeps.named, r, text, rfl, encoded⟩, fun e member => ?_⟩
  rw [Operation.writes, made] at member
  obtain rfl := List.mem_singleton.1 member
  exact has

theorem Holdings.repeats_bulkSave {held : Holdings} {records : Records}
    (keep : ∀ r ∈ records, held.Keeps r) : (Operation.bulkSave records).Repeats held := by
  refine ⟨trivial, trivial, fun e member => ?_⟩
  obtain ⟨r, among, made⟩ := List.mem_filterMap.1 member
  obtain ⟨text, -, own, has⟩ := (keep r among).makes_entry
  obtain rfl := Option.some.inj (own.symm.trans made)
  exact has

namespace World

variable {w : World Client} {held : Holdings} {latency : Nat}

theorem WritesBack.repeats {op : Operation} (back : w.WritesBack op)
    (holds : w.Holds held latency) (proper : held.Proper) : op.Repeats held := by
  cases back with
  | save read =>
    obtain ⟨named, found⟩ := holds.get_of_ok read
    obtain ⟨rfl, keeps⟩ := proper.keeps_of_get named found
    exact keeps.repeats_save
  | bulkSave read =>
    exact Holdings.repeats_bulkSave fun r among => (Returns.bulkGet read among).keeps holds proper

/-- Writing what is kept already changes nothing, and succeeds under a context that outlasts the
answer. -/
theorem Holds.visit_repeats (holds : w.Holds held latency) (proper : held.Proper) {v : Visit}
    (repeats : v.op.Repeats held) :
    ∃ result, (w.visit v).1 = some result ∧ (w.visit v).2.Holds held latency ∧
      ((∀ now, (v.life now).Outlasts (now + latency)) → ∃ answer, result = .ok answer) := by
  obtain ⟨result, entries, written, ended, after⟩ := holds.puts v
  rw [proper.expiryAt] at written
  rw [Holdings.put_of_has fun e member => repeats.has e (written member)] at after
  refine ⟨result, ended, after, fun outlasts => ?_⟩
  obtain ⟨time, life, op⟩ := v
  cases op with
  | get key => exact repeats.write.elim
  | bulkGet keys => exact repeats.write.elim
  | save key record =>
    obtain ⟨named, r, text, rfl, encoded⟩ := repeats.storable
    have saved := holds.visit_save time ⟨life, outlasts⟩ named encoded
    exact ⟨(), Option.some.inj (ended.symm.trans saved)⟩
  | bulkSave records =>
    have saved := holds.visit_bulkSave time ⟨life, outlasts⟩ records
    exact ⟨(), Option.some.inj (ended.symm.trans saved)⟩

theorem Holds.visitAll_repeats (holds : w.Holds held latency) (proper : held.Proper)
    {visits : List Visit} (repeats : ∀ v ∈ visits, v.op.Repeats held) :
    ∃ answers, (w.visitAll visits).1 = some answers ∧ answers.map (·.visit) = visits ∧
      (w.visitAll visits).2.Holds held latency ∧
      ∀ a ∈ answers, (∀ now, (a.visit.life now).Outlasts (now + latency)) →
        ∃ answer, a.result = .ok answer := by
  induction visits generalizing w with
  | nil => exact ⟨[], rfl, rfl, holds, fun _ member => absurd member List.not_mem_nil⟩
  | cons v rest ih =>
    obtain ⟨result, ended, after, succeeds⟩ := holds.visit_repeats proper (repeats v (by simp))
    obtain ⟨answers, later, same, last, others⟩ :=
      ih after fun v member => repeats v (by simp [member])
    refine ⟨⟨v, result⟩ :: answers, ?_, by rw [List.map_cons, same],
      (visitAll_cons ended).2 ▸ last, ?_⟩
    · rw [(visitAll_cons ended).1, later]
      rfl
    · intro a member
      rcases List.mem_cons.1 member with rfl | among
      · exact succeeds
      · exact others a among

/-- A record that is kept by one store is saved into another one and read back. -/
theorem Holds.visit_transfer {r : Record} (keeps : held.Keeps r) {w' : World Client}
    {held' : Holdings} {latency' : Nat} (holds' : w'.Holds held' latency')
    (proper' : held'.Proper) (saved : Timestamp) (context : LiveContext latency') :
    let save := w'.visit ⟨saved, context.life, .save r.key (some r)⟩
    save.1 = some (.ok ()) ∧
      ∀ (read : Timestamp) (later : LiveContext latency'), r.isExpiredAt read = false →
        (save.2.visit ⟨read, later.life, .get r.key⟩).1 = some (.ok r) := by
  intro save
  obtain ⟨text, encoded, made, -⟩ := keeps.makes_entry
  obtain ⟨_, value, -, fits⟩ := keeps.kept
  obtain ⟨key, _, expiry⟩ := r
  obtain rfl : _ = RecordValue.encoded _ := value
  cases encoded
  refine ⟨holds'.visit_save saved context keeps.named rfl, fun read later live => ?_⟩
  have after : save.2.Holds _ latency' := (holds'.visit saved context (.save key (some _))).2
  rw [proper'.expiryAt, Operation.writes, made] at after
  have has : (held'.put [(key, ⟨text, expiry⟩)]).Has key ⟨text, expiry⟩ :=
    Holdings.has_put_last [] (fun _ member => absurd member List.not_mem_nil) _ held'
  exact (after.visit_get read later keeps.named).trans
    (congrArg some (has.get_of_live fits live))

end World

/-! ## Stores that stay as they are -/

/-- What a store returns may be written back to it, and written to another store that was only
operated on. -/
structure World.Steady (w : World Client) (held : Holdings) (latency : Nat) : Prop where
  holds : w.Holds held latency
  /-- A record that is returned has the text and the expiry that are kept under its key. -/
  verbatim : ∀ r, w.Returns r → ∃ text, r.value = .encoded text ∧ held.Has r.key ⟨text, r.expiry⟩
  /-- Whatever is written back, any number of times and under any contexts, the store holds what it
  held before and returns what it returned before.  Under a context that outlasts the answer it
  succeeds. -/
  back : ∀ visits : List Visit, (∀ v ∈ visits, w.WritesBack v.op) →
    ∃ answers, (w.visitAll visits).1 = some answers ∧ answers.map (·.visit) = visits ∧
      (w.visitAll visits).2.Holds held latency ∧
      (∀ r, (w.visitAll visits).2.Returns r ↔ w.Returns r) ∧
      ∀ a ∈ answers, (∀ now, (a.visit.life now).Outlasts (now + latency)) →
        ∃ answer, a.result = .ok answer
  /-- Another store that is given a record returns it until it expires. -/
  transfer : ∀ w' : World Client, w'.Operated → ∃ held' latency', w'.Holds held' latency' ∧
    ∀ r, w.Returns r → ∀ (saved : Timestamp) (context : LiveContext latency'),
      let save := w'.visit ⟨saved, context.life, .save r.key (some r)⟩
      save.1 = some (.ok ()) ∧
        ∀ (read : Timestamp) (later : LiveContext latency'), r.isExpiredAt read = false →
          (save.2.visit ⟨read, later.life, .get r.key⟩).1 = some (.ok r)

/-- **Reading and writing back is the identity.**  Every store that began empty and was only
operated on stays as it is when what it returns is written back to it, one by one or in batches, and
every other such store, of the same or of the other kind, keeps what it is given of it. -/
theorem steady_of_operated {w : World Client} (operated : w.Operated) :
    ∃ held latency, w.Steady held latency := by
  obtain ⟨held, latency, holds, proper⟩ := operated.holds
  refine ⟨held, latency, holds, fun r returns => ?_, fun visits backs => ?_, fun w' operated' => ?_⟩
  · obtain ⟨text, value, has, -⟩ := (returns.keeps holds proper).kept
    exact ⟨text, value, has⟩
  · obtain ⟨answers, ended, same, after, succeed⟩ := holds.visitAll_repeats proper
      fun v member => (backs v member).repeats holds proper
    have returns (r : Record) : (w.visitAll visits).2.Returns r ↔ w.Returns r :=
      (after.returns_iff r).trans (holds.returns_iff r).symm
    exact ⟨answers, ended, same, after, returns, succeed⟩
  · obtain ⟨held', latency', holds', proper'⟩ := operated'.holds
    exact ⟨held', latency', holds', fun r returns saved context =>
      World.Holds.visit_transfer (returns.keeps holds proper) holds' proper' saved context⟩

/-- A text that is no JSON and an expiry that is none, written over the emulator and read back in a
batch; one of the records goes on to a reference store. -/
theorem steady_brokenText :
    let context : LiveContext 3 := .deadline 3 6
    let adapter : Adapter := .new "t" .verbatim none
    let e : Emulator := .empty 3
    let empty : World Client := ⟨0, 0, .adapted adapter (.emulator e) .initial, none, 0, [], [], []⟩
    let other : World Client := { empty with store := .reference "t" ∅ }
    let broken : Record := .ofText "a" "[1" (some 50)
    let w := (empty.visit
      ⟨7, context.life, .bulkSave [broken, .ofText "b" "2" (some (-4))]⟩).2
    let back : Visit := ⟨70, context.life, .bulkSave [.ofText "b" "2" none, broken]⟩
    w.Operated ∧ other.Operated ∧ w.WritesBack back.op ∧
      (∃ held latency, w.Holds held latency ∧ (w.visitAll [back, back]).2.Holds held latency) ∧
      w.Returns broken ∧
      ∃ held latency, other.Holds held latency ∧ ∀ context : LiveContext latency,
        ((other.visit ⟨0, context.life, .save "a" (some broken)⟩).2.visit
          ⟨49, context.life, .get "a"⟩).1 = some (.ok broken) := by
  intro context adapter e empty other broken w back
  have operated : w.Operated := by
    refine .visit (.adapted rfl rfl) _ fun r member t expires => ?_
    rcases List.mem_pair.1 member with rfl | rfl <;> cases expires <;> decide
  have started : other.Operated := .reference rfl
  have holds : empty.Holds (.tables adapter e.tables) 3 := .adapted ⟨.initial, rfl, rfl⟩ rfl
  -- What the batch writes, and what is then read of it.
  let entries : List (String × Stored) := [("a", ⟨"[1", some 50⟩), ("b", ⟨"2", none⟩)]
  let held := (Holdings.tables adapter e.tables).put entries
  have wrote : w.Holds held 3 := by
    have after := (holds.visit 7 context (.bulkSave [broken, .ofText "b" "2" (some (-4))])).2
    rwa [show Operation.writes _ _ = entries by decide] at after
  have first : held.Has "a" ⟨"[1", some 50⟩ := Holdings.has_put_last [] (by decide) _ _
  have second : held.Has "b" ⟨"2", none⟩ :=
    Holdings.has_put_last [("a", ⟨"[1", some 50⟩)] (by decide) _ _
  have shown : (w.visit ⟨40, context.life, .bulkGet ["b", "a"]⟩).1 =
      some (.ok [.ofText "b" "2" none, broken]) := by
    rw [wrote.visit_bulkGet 40 context (by decide) (by decide),
      show ["b", "a"].eraseDups = ["b", "a"] by decide, List.filterMap_cons, List.filterMap_cons,
      second.get_of_live (fun _ expires => nomatch expires) (by decide),
      first.get_of_live (by rintro _ ⟨⟩; decide) (by decide)]
    rfl
  have returned : w.Returns broken := .bulkGet shown (by simp)
  obtain ⟨held, latency, steady⟩ := steady_of_operated operated
  obtain ⟨answers, -, -, after, -⟩ := steady.back [back, back] fun v member => by
    simp only [List.mem_cons, List.not_mem_nil, or_false, or_self] at member
    exact member ▸ .bulkSave shown
  obtain ⟨held', latency', holds', given⟩ := steady.transfer other started
  refine ⟨operated, started, .bulkSave shown, ⟨held, latency, steady.holds, after⟩, returned, held',
    latency', holds', fun context => ?_⟩
  exact (given broken returned 0 context).2 49 context (by decide)

end RecordStore
