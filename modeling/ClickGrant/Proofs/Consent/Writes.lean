import ClickGrant.Proofs.Consent.File

/-!
# Consents survive on disk

Writes of the consent file run one at a time: a write takes the lock and with it the records as they
are then, and replaces the file later, while consents go on being recorded. A write may begin as soon
as it is asked for, or wait in the queue for any time; a queued write carries nothing with it.
`Writer.Goes` are the orders in which all this can happen (`Writer.goes_persist` and
`Writer.goes_runQueued` are those in which nothing comes between). What is proved:
  1. `Writer.Kept` — what holds at every moment: what the file has is in the write under way, and what
     that has is in memory; in memory is what was loaded and what was recorded; and unless a write is
     still queued, the last write that was asked for brings everything up to date.
  2. `consents_survive` — so when all writes have run and one was asked for after the last new record,
     the file opens with the consents as they are in memory. At every moment the file has nothing that
     was neither loaded nor recorded, and it has all it has ever had.
-/
set_option autoImplicit false

namespace ClickGrant

/-- A bit that can be seen in a mask is set in it. -/
theorem or_twoPow_of_and_ne_zero {n i : Nat} (m : BitVec n) (seen : m &&& BitVec.twoPow n i ≠ 0) :
    m ||| BitVec.twoPow n i = m := by
  rw [BitVec.and_twoPow] at seen
  have set : m.getLsbD i = true := by
    by_contra clear
    rw [if_neg clear] at seen
    exact seen rfl
  have own : BitVec.twoPow n i = m &&& BitVec.twoPow n i := by rw [BitVec.and_twoPow, if_pos set]
  rw [own]
  ext j hj
  rw [BitVec.getElem_or, BitVec.getElem_and]
  cases m[j] <;> rfl

/-- Each kind has a single bit. -/
theorem Kind.consentBit_eq_twoPow (kind : Kind) : ∃ i, kind.consentBit.toBitVec = BitVec.twoPow 32 i := by
  cases kind with
  | location => exact ⟨0, by decide⟩
  | paste => exact ⟨1, by decide⟩
  | save => exact ⟨2, by decide⟩

/-- What is seen of a kind is all there is of it. -/
theorem Kind.or_consentBit (kind : Kind) {m : UInt32} (seen : m &&& kind.consentBit ≠ 0) :
    m ||| kind.consentBit = m := by
  obtain ⟨i, bit⟩ := kind.consentBit_eq_twoPow
  rw [ne_eq, ← UInt32.toBitVec_inj, UInt32.toBitVec_and, bit] at seen
  rw [← UInt32.toBitVec_inj, UInt32.toBitVec_or, bit]
  exact or_twoPow_of_and_ne_zero m.toBitVec seen

namespace ConsentStore

variable {c : ConsentStore} {token : Token} {kind : Kind}

/-- A consent that was on record changes no mask. -/
theorem mask_record_of_known (known : c.hasConsent token kind = true) (token' : Token) :
    (c.record token kind).2.mask token' = c.mask token' := by
  rw [mask_record]
  split
  next same => exact same ▸ kind.or_consentBit (hasConsent_iff.mp known)
  next => rfl

end ConsentStore

/-- A consent store with the write that is under way, if any: the records that the write has taken. -/
structure Writer where
  store : ConsentStore
  taken : Option (Assoc Token UInt32)

/-- What can happen to a store. -/
inductive Happening where
  /-- A consent is recorded; `newly` if it was not on record. -/
  | record (token : Token) (kind : Kind) (newly : Bool)
  /-- A write in the background is asked for. -/
  | queue
  /-- A write is asked for and begins: it takes the lock and the records. -/
  | persist
  /-- A write from the queue begins. -/
  | runQueued
  /-- The write under way replaces the file and releases the lock. -/
  | finish
  deriving DecidableEq

/-- A consent is recorded that was not on record. -/
def Happening.isNew : Happening → Bool
  | .record _ _ newly => newly
  | _ => false

namespace Writer

open ConsentStore (ofFile)

/-- A store as it is opened. -/
def opened (file : ConsentFile) : Writer := ⟨ofFile file, none⟩

def record (w : Writer) (token : Token) (kind : Kind) : Writer :=
  { w with store := (w.store.record token kind).2 }

def queue (w : Writer) : Writer := { w with store := w.store.persistLater }

/-- The lock is taken, and the records with it. -/
def take (w : Writer) : Writer := { w with taken := some w.store.records }

/-- One write less is queued. -/
def unqueue (w : Writer) : Writer := { w with store.queued := w.store.queued - 1 }

/-- The file is replaced, if it can be, by the records that were taken. -/
def finish (w : Writer) (records : Assoc Token UInt32) : Writer where
  store := { w.store with file := { w.store with records }.persist.2.file }
  taken := none

/-- What happens, and what it leads to. A write begins only while none is under way. -/
inductive Step : Writer → Happening → Writer → Prop where
  | record (w : Writer) (token : Token) (kind : Kind) :
      Step w (.record token kind (w.store.record token kind).1) (w.record token kind)
  | queue (w : Writer) : Step w .queue w.queue
  | persist {w : Writer} (free : w.taken = none) : Step w .persist w.take
  | runQueued {w : Writer} (free : w.taken = none) (waiting : 0 < w.store.queued) :
      Step w .runQueued w.unqueue.take
  | finish {w : Writer} {records : Assoc Token UInt32} (busy : w.taken = some records) :
      Step w .finish (w.finish records)

/-- The orders in which things can happen. -/
inductive Goes : Writer → List Happening → Writer → Prop where
  | done (w : Writer) : Goes w [] w
  | next {w w' w'' : Writer} {e : Happening} {rest : List Happening} (step : Step w e w')
      (goes : Goes w' rest w'') : Goes w (e :: rest) w''

/-- A write that nothing comes between. -/
theorem goes_persist {w : Writer} (free : w.taken = none) :
    w.Goes [.persist, .finish] { w with store := w.store.persist.2 } := by
  refine .next (.persist free) ?_
  have done := Goes.next (.finish (w := w.take) rfl) (.done _)
  have same : w.take.finish w.store.records = { w with store := w.store.persist.2 } := by
    obtain ⟨⟨records, file, queued⟩, taken⟩ := w
    subst free
    cases file <;> rfl
  rwa [same] at done

theorem goes_runQueued {w : Writer} (free : w.taken = none) (waiting : 0 < w.store.queued) :
    w.Goes [.runQueued, .finish] { w with store := w.store.runQueued } := by
  refine .next (.runQueued free waiting) ?_
  have done := Goes.next (.finish (w := w.unqueue.take) rfl) (.done _)
  have same : w.unqueue.take.finish w.store.records = { w with store := w.store.runQueued } := by
    obtain ⟨⟨records, file, queued⟩, taken⟩ := w
    subst free
    have some : queued ≠ 0 := Nat.ne_of_gt waiting
    rw [ConsentStore.runQueued, if_neg some]
    cases file <;> rfl
  exact same ▸ done

/-! ## What was asked for and what was recorded -/

/-- After every consent that was newly recorded a write is asked for. -/
def Requested (events : List Happening) : Prop :=
  ∀ earlier token kind later, events = earlier ++ .record token kind true :: later →
    .queue ∈ later ∨ .persist ∈ later

theorem requested_nil : Requested [] := by
  intro earlier token kind later split
  cases earlier <;> cases split

theorem Requested.cons {e : Happening} {rest : List Happening}
    (asked : e.isNew = true → .queue ∈ rest ∨ .persist ∈ rest) (h : Requested rest) :
    Requested (e :: rest) := by
  intro earlier token kind later split
  cases earlier with
  | nil =>
    cases split
    exact asked rfl
  | cons _ earlier => exact h earlier token kind later (List.cons.inj split).2

/-- The bits that were recorded for an identity. -/
def recorded (events : List Happening) (token : Token) : UInt32 :=
  match events with
  | [] => 0
  | .record token' kind _ :: rest =>
    if token' = token then kind.consentBit ||| recorded rest token else recorded rest token
  | _ :: rest => recorded rest token

theorem recorded_append (token : Token) : ∀ events later : List Happening,
    recorded (events ++ later) token = recorded events token ||| recorded later token
  | [], later => UInt32.zero_or.symm
  | e :: rest, later => by
    have ih := recorded_append token rest later
    cases e with
    | record token' kind newly =>
      simp only [List.cons_append, recorded]
      split
      · rw [ih, UInt32.or_assoc]
      · exact ih
    | _ => exact ih

theorem recorded_append_silent {events : List Happening} {e : Happening} (token : Token)
    (silent : recorded [e] token = 0) : recorded (events ++ [e]) token = recorded events token := by
  rw [recorded_append, silent, UInt32.or_zero]

theorem Requested.init {events : List Happening} {e : Happening} (h : Requested (events ++ [e]))
    (other : e ≠ .queue ∧ e ≠ .persist) : Requested events := by
  intro earlier token kind later split
  have longer : events ++ [e] = earlier ++ .record token kind true :: (later ++ [e]) := by
    rw [split, List.append_assoc, List.cons_append]
  have asked := h earlier token kind (later ++ [e]) longer
  simpa [List.mem_append, List.mem_singleton, other.1.symm, other.2.symm] using asked

/-- Nothing was asked for yet after a record. -/
theorem not_requested_record (events : List Happening) (token : Token) (kind : Kind) :
    ¬Requested (events ++ [.record token kind true]) := by
  intro h
  rcases h events token kind [] rfl with none | none <;> cases none

/-! ## At every moment -/

/-- Every bit that is set in the one map of masks is set in the other. -/
def Below (records records' : Assoc Token UInt32) : Prop :=
  ∀ token, Covers (records.getD token 0) (records'.getD token 0)

theorem Below.refl (records : Assoc Token UInt32) : Below records records := fun _ => .refl _

theorem Below.trans {r₁ r₂ r₃ : Assoc Token UInt32} (h₁ : Below r₁ r₂) (h₂ : Below r₂ r₃) : Below r₁ r₃ :=
  fun token => (h₁ token).trans (h₂ token)

/-- The records that the file will have once the write under way is finished. -/
def coming (w : Writer) : Assoc Token UInt32 := w.taken.getD (ofFile w.store.file).records

/-- What holds at every moment after a file was opened. -/
structure Kept (file : ConsentFile) (past : List Happening) (w : Writer) : Prop where
  writable : w.store.file ≠ .directory
  once : w.store.records.keys.Nodup
  takenOnce : ∀ records, w.taken = some records → records.keys.Nodup
  /-- The write under way has all that the file has. -/
  stored : Below (ofFile w.store.file).records w.coming
  /-- In memory is all that it has. -/
  noted : Below w.coming w.store.records
  loaded : ∀ token, w.store.mask token = (ofFile file).mask token ||| recorded past token
  fresh : Requested past → 0 < w.store.queued ∨ ∀ token, w.coming.getD token 0 = w.store.mask token

variable {file : ConsentFile} {past events : List Happening} {w w' : Writer} {e : Happening}

theorem kept_opened (writable : file ≠ .directory) : Kept file [] (opened file) where
  writable := writable
  once := ConsentStore.nodup_keys_ofFile file
  takenOnce := nofun
  stored := .refl _
  noted := .refl _
  loaded := fun _ => UInt32.or_zero.symm
  fresh := fun _ => .inr fun _ => rfl

/-- A file that can be written has afterwards what the write had taken. -/
theorem coming_finish (writable : w.store.file ≠ .directory) {records : Assoc Token UInt32}
    (once : records.keys.Nodup) : (w.finish records).coming = records ∧
      (w.finish records).store.file ≠ .directory := by
  have replaced : (w.finish records).store.file = .bytes (ConsentStore.encode records) := by
    show ({ w.store with records }.persist).2.file = _
    unfold ConsentStore.persist
    cases at_path : w.store.file with
    | directory => exact absurd at_path writable
    | missing => rfl
    | bytes content => rfl
  refine ⟨?_, by rw [replaced]; nofun⟩
  show (ofFile (w.finish records).store.file).records = records
  rw [replaced, ConsentStore.ofFile_encode once]

/-- A write that begins takes everything there is. -/
theorem Kept.begun (kept : Kept file past w) (store : ConsentStore) (same : store.records = w.store.records)
    (at_path : store.file = w.store.file) {e : Happening} (silent : ∀ token, recorded [e] token = 0) :
    Kept file (past ++ [e]) ⟨store, some store.records⟩ where
  writable := at_path ▸ kept.writable
  once := same ▸ kept.once
  takenOnce := fun records h => by cases h; exact same ▸ kept.once
  stored := by
    show Below (ofFile store.file).records store.records
    rw [at_path, same]
    exact kept.stored.trans kept.noted
  noted := .refl _
  loaded := by
    intro token
    rw [recorded_append_silent token (silent token), ← kept.loaded token]
    show store.records.getD token 0 = _
    rw [same]
    rfl
  fresh := fun _ => .inr fun _ => rfl

theorem Kept.next (kept : Kept file past w) (step : Step w e w') : Kept file (past ++ [e]) w' := by
  cases step with
  | record token kind =>
    have within := w.store.within_record token kind
    refine ⟨kept.writable, ConsentStore.nodup_keys_record kept.once token kind, kept.takenOnce, kept.stored,
      kept.noted.trans within, fun token' => ?_, fun requested => ?_⟩
    · have mask := ConsentStore.mask_record w.store token token' kind
      rw [recorded_append]
      simp only [recorded]
      show (w.store.record token kind).2.mask token' = _
      rw [mask]
      split
      next same => rw [same, kept.loaded token', UInt32.or_zero, UInt32.or_assoc]
      next => rw [kept.loaded token', UInt32.or_zero]
    · -- a record that is new waits for a request, and one that is not changes nothing
      cases newly : (w.store.record token kind).1 with
      | true =>
        rw [newly] at requested
        exact absurd requested (not_requested_record past token kind)
      | false =>
        have known : w.store.hasConsent token kind = true := by
          have not_new : (!w.store.hasConsent token kind) = false := newly
          rwa [Bool.not_eq_false'] at not_new
        refine (kept.fresh (requested.init ⟨nofun, nofun⟩)).imp_right fun same token' => ?_
        show w.coming.getD token' 0 = (w.store.record token kind).2.mask token'
        rw [same token', ConsentStore.mask_record_of_known known]
  | queue =>
    refine ⟨kept.writable, kept.once, kept.takenOnce, kept.stored, kept.noted, fun token => ?_, fun _ => ?_⟩
    · rw [recorded_append_silent token rfl]
      exact kept.loaded token
    · exact .inl (Nat.succ_pos _)
  | persist => exact kept.begun w.store rfl rfl fun _ => rfl
  | runQueued => exact kept.begun w.unqueue.store rfl rfl fun _ => rfl
  | @finish records busy =>
    have once := kept.takenOnce records busy
    obtain ⟨coming, writable⟩ := coming_finish kept.writable once
    have taken : w.coming = records := by rw [Writer.coming, busy]; rfl
    have noted := kept.noted
    rw [taken] at noted
    refine ⟨writable, kept.once, nofun, ?_, ?_, fun token => ?_, fun requested => ?_⟩
    · exact .refl _
    · rw [coming]
      exact noted
    · rw [recorded_append_silent token rfl]
      exact kept.loaded token
    · refine (kept.fresh (requested.init ⟨nofun, nofun⟩)).imp_right fun same token => ?_
      rw [coming, ← taken]
      exact same token

theorem Kept.run (kept : Kept file past w) (goes : w.Goes events w') : Kept file (past ++ events) w' := by
  induction goes generalizing past with
  | done w => rwa [List.append_nil]
  | next step _ ih =>
    have after := ih (kept.next step)
    rwa [List.append_assoc] at after

/-- The file loses nothing. -/
theorem Kept.stays (kept : Kept file past w) (step : Step w e w') :
    (ofFile w.store.file).Within (ofFile w'.store.file) := by
  cases step with
  | @finish records busy =>
    have stored := kept.stored
    have taken : w.coming = records := by rw [Writer.coming, busy]; rfl
    have after : (ofFile (w.finish records).store.file).records = records :=
      (coming_finish kept.writable (kept.takenOnce records busy)).1
    show Below (ofFile w.store.file).records (ofFile (w.finish records).store.file).records
    rw [after, ← taken]
    exact stored
  | _ => exact .refl _

theorem Kept.stays_throughout (kept : Kept file past w) (goes : w.Goes events w') :
    (ofFile w.store.file).Within (ofFile w'.store.file) := by
  induction goes generalizing past with
  | done w => exact .refl _
  | next step _ ih => exact (kept.stays step).trans (ih (kept.next step))

/-- All writes have run. -/
def Settled (w : Writer) : Prop := w.taken = none ∧ w.store.queued = 0

/-- A file that can be written is opened, consents are recorded, and writes are asked for, begin and
finish in any order. Once all writes have run, and one was asked for after the last new record, the
file opens with the very consents that are in memory, and every bit of the initial file is still
there. At every moment the file has only bits that were loaded or recorded, and every bit that it had
before. A file that is missing or does not decode opens without consents. -/
theorem consents_survive (writable : file ≠ .directory) (goes : (opened file).Goes events w) :
    (w.Settled → Requested events →
      (∀ token kind, (ofFile w.store.file).hasConsent token kind = w.store.hasConsent token kind) ∧
      ∀ token, (ofFile w.store.file).mask token = w.store.mask token ∧
        Covers ((ofFile file).mask token) ((ofFile w.store.file).mask token)) ∧
    (∀ token, Covers ((ofFile w.store.file).mask token) ((ofFile file).mask token ||| recorded events token)) ∧
    (∀ earlier later u, (opened file).Goes earlier u → u.Goes later w →
      (ofFile u.store.file).Within (ofFile w.store.file)) ∧
    ((file = .missing ∨ ∃ content, file = .bytes content ∧ ConsentStore.decode? content = none) →
      (ofFile file).records = .empty) := by
  have kept := (kept_opened writable).run goes
  rw [List.nil_append] at kept
  refine ⟨fun ⟨free, empty⟩ requested => ?_, fun token => ?_, fun earlier later u first second => ?_, ?_⟩
  · have coming : w.coming = (ofFile w.store.file).records := by rw [Writer.coming, free]; rfl
    have same (token : Token) : (ofFile w.store.file).mask token = w.store.mask token := by
      rcases kept.fresh requested with waiting | same
      · exact absurd empty (Nat.ne_of_gt waiting)
      · rw [ConsentStore.mask, ← coming]
        exact same token
    refine ⟨fun token kind => ?_, fun token => ⟨same token, ?_⟩⟩
    · rw [Bool.eq_iff_iff, ConsentStore.hasConsent_iff, ConsentStore.hasConsent_iff, same token]
    · rw [same token, kept.loaded token]
      exact .or_left _ _
  · rw [← kept.loaded token]
    exact (kept.stored.trans kept.noted) token
  · exact ((kept_opened writable).run first).stays_throughout second
  · rintro (rfl | ⟨content, rfl, undecodable⟩)
    · rfl
    · show (ConsentStore.decode? content).getD .empty = .empty
      rw [undecodable]
      rfl

/-- The file has an identity with a consent and with a bit that stands for no kind. -/
def oldFile : ConsentFile := .bytes (ConsentStore.encode ⟨[(100, 9)]⟩)

/-- A consent is recorded and a write queued. While the write is under way another consent is recorded,
for which a second write is queued. -/
def interleaved : List Happening :=
  [.record 100 .save true, .queue, .runQueued, .record 200 .paste true, .queue, .finish, .runQueued, .finish]

/-- The first of its writes begins. -/
def firstWrite : Writer := ((opened oldFile).record 100 .save).queue.unqueue.take

/-- The second begins, when the first is finished. -/
def secondWrite : Writer :=
  ((firstWrite.record 200 .paste).queue.finish firstWrite.store.records).unqueue.take

/-- Both consents are found again, and so are the bits that were there before. -/
theorem consents_survive_interleaved :
    ∃ w, oldFile ≠ .directory ∧ (opened oldFile).Goes interleaved w ∧ w.Settled ∧ Requested interleaved ∧
      (ofFile w.store.file).mask 100 = 13 ∧ (ofFile w.store.file).mask 200 = 2 := by
  have writable : oldFile ≠ .directory := nofun
  have goes : (opened oldFile).Goes interleaved (secondWrite.finish secondWrite.store.records) := by
    have save : ((opened oldFile).store.record 100 .save).1 = true := by decide +kernel
    have paste : (firstWrite.store.record 200 .paste).1 = true := by decide +kernel
    have first : Step ((opened oldFile).record 100 .save).queue .runQueued firstWrite :=
      .runQueued rfl (Nat.succ_pos _)
    have second : Step ((firstWrite.record 200 .paste).queue.finish firstWrite.store.records) .runQueued
        secondWrite := .runQueued rfl (Nat.succ_pos _)
    refine .next (save ▸ .record (opened oldFile) 100 .save) <| .next (.queue _) <| .next first ?_
    refine .next (paste ▸ .record firstWrite 200 .paste) <| .next (.queue _) <| .next (.finish rfl) <|
      .next second ?_
    exact .next (.finish rfl) (.done _)
  have requested : Requested interleaved :=
    .cons (by decide) <| .cons nofun <| .cons nofun <| .cons (by decide) <| .cons nofun <| .cons nofun <|
      .cons nofun <| .cons nofun requested_nil
  have survive := (consents_survive writable goes).1 ⟨rfl, rfl⟩ requested
  refine ⟨_, writable, goes, ⟨rfl, rfl⟩, requested, ?_, ?_⟩
  · rw [(survive.2 100).1]
    decide +kernel
  · rw [(survive.2 200).1]
    decide +kernel

end Writer

end ClickGrant
