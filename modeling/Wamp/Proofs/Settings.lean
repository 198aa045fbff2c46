import Wamp.Proofs.Dealer.Consumers
import Wamp.Settings.Reader

/-!
# Accepted settings

Settings that are read from a text have what the text writes for each field, and the default for
what it does not write, whichever reader takes the text apart.  A size is held within the range
of sizes when it is read, and a queue holds one announcement at least; but nothing keeps it below
the largest capacity that a queue admits, so a text is accepted whose queues cannot be enabled.
-/

namespace Wamp

namespace Settings

open Json5 (Piece Tree)

/-! ## Fields and their values -/

abbrev Field.Value : Field → Type
  | .autoDiscloseCaller | .autoDisclosePublisher => Bool
  | .metaEventQueueSize => Nat

def Reader.value (reader : Reader) : (field : Field) → Tree → Except SettingsFault field.Value
  | .autoDiscloseCaller | .autoDisclosePublisher => reader.boolean
  | .metaEventQueueSize => reader.size

def get (settings : Settings) : (field : Field) → field.Value
  | .autoDiscloseCaller => settings.autoDiscloseCaller
  | .autoDisclosePublisher => settings.autoDisclosePublisher
  | .metaEventQueueSize => settings.metaEventQueueSize

def Draft.get? (draft : Draft) : (field : Field) → Option field.Value
  | .autoDiscloseCaller => draft.autoDiscloseCaller
  | .autoDisclosePublisher => draft.autoDisclosePublisher
  | .metaEventQueueSize => draft.metaEventQueueSize

theorem Draft.get_settings (draft : Draft) (field : Field) :
    draft.settings.get field = (draft.get? field).getD (({} : Settings).get field) := by
  cases field <;> rfl

theorem Draft.holds_eq_isSome (draft : Draft) (field : Field) :
    draft.holds field = (draft.get? field).isSome := by
  cases field <;> rfl

theorem Draft.get?_empty (field : Field) : ({} : Draft).get? field = none := by
  cases field <;> rfl

theorem Field.name_of_ofName? {name : String} {field : Field}
    (hfound : Field.ofName? name = some field) : field.name = name := by
  have hname := List.find?_some (p := fun field : Field => field.name == name) hfound
  exact eq_of_beq hname

theorem Field.ofName?_name (field : Field) : Field.ofName? field.name = some field := by
  cases field <;> decide

section Reading

variable {reader : Reader}

/-- A field that is read has its value, and the other fields are left alone. -/
theorem Draft.get?_read {draft next : Draft} {field : Field} {value : Tree}
    (hread : draft.read reader field value = .ok next) :
    (∃ result, reader.value field value = .ok result ∧ next.get? field = some result) ∧
      ∀ other, other ≠ field → next.get? other = draft.get? other := by
  cases field <;>
    · obtain ⟨result, hresult, rfl⟩ := map_eq_ok_iff.mp hread
      refine ⟨⟨result, hresult, rfl⟩, ?_⟩
      rintro (_ | _ | _) hother <;> first | rfl | contradiction

theorem Draft.readMember_eq_ok {draft next : Draft} {member : List Piece × Tree}
    (hread : draft.readMember reader member = .ok next) :
    ∃ field, reader.text member.1 = .ok field.name ∧ draft.holds field = false ∧
      draft.read reader field member.2 = .ok next := by
  obtain ⟨name, hname, hrest⟩ := bind_eq_ok_iff.mp hread
  split at hrest
  next => contradiction
  next field hfield =>
    split at hrest
    next => contradiction
    next hnew => exact ⟨field, Field.name_of_ofName? hfield ▸ hname, by simpa using hnew, hrest⟩

/-! ## What a text writes -/

/-- The field that a member is for. -/
def Reader.fieldOf? (reader : Reader) (member : List Piece × Tree) : Option Field :=
  match reader.text member.1 with
  | .ok name => Field.ofName? name
  | .error _ => none

/-- The fields that a tree writes, with their values. -/
def Reader.written (reader : Reader) : Tree → List (Field × Tree)
  | .object members =>
    members.filterMap fun member =>
      (reader.fieldOf? member).map fun field => (field, member.2)
  | .list items => Field.all.zip items
  | _ => []

def Reader.written? (reader : Reader) (field : Field) (tree : Tree) : Option Tree :=
  (reader.written tree).lookup field

/-- Settings have for a field what a tree writes for it, or the default. -/
def Obeys (settings : Settings) (reader : Reader) (tree : Tree) (field : Field) : Prop :=
  match reader.written? field tree with
  | some value => reader.value field value = .ok (settings.get field)
  | none => settings.get field = ({} : Settings).get field

theorem lookup_eq_none_of_not_mem {entries : List (Field × Tree)} {field : Field}
    (hmissing : field ∉ entries.map Prod.fst) : entries.lookup field = none := by
  rw [List.lookup_eq_none_iff]
  intro entry hentry
  rw [bne_iff_ne]
  rintro rfl
  exact hmissing (List.mem_map_of_mem hentry)

/-- Of fields that are read one after the other, each once, every one has its value. -/
theorem get?_of_reads {entries : List (Field × Tree)} {draft final : Draft}
    (hreads : entries.foldlM
      (fun draft (field, value) => Draft.read reader draft field value) draft = .ok final)
    (honce : (entries.map Prod.fst).Nodup) (field : Field) :
    match entries.lookup field with
    | some value => ∃ result, reader.value field value = .ok result ∧ final.get? field = some result
    | none => final.get? field = draft.get? field := by
  induction entries generalizing draft with
  | nil =>
      obtain rfl : draft = final := Except.ok.inj hreads
      rfl
  | cons entry rest ih =>
      obtain ⟨first, value⟩ := entry
      obtain ⟨next, hread, hrest⟩ := bind_eq_ok_iff.mp hreads
      obtain ⟨hvalue, hothers⟩ := Draft.get?_read hread
      obtain ⟨hnew, honce⟩ := List.nodup_cons.mp honce
      have hlater := ih hrest honce
      rw [List.lookup_cons]
      cases hfirst : field == first with
      | true =>
          obtain rfl : field = first := eq_of_beq hfirst
          rw [lookup_eq_none_of_not_mem hnew] at hlater
          rwa [← hlater] at hvalue
      | false =>
          rwa [hothers field (ne_of_beq_false hfirst)] at hlater

/-- Members are read like the fields that they are for, each of which is new. -/
theorem reads_of_members {members : List (List Piece × Tree)} {draft final : Draft}
    (hreads : members.foldlM (Draft.readMember reader) draft = .ok final) :
    let entries := reader.written (.object members)
    entries.foldlM (fun draft (field, value) => Draft.read reader draft field value) draft =
        .ok final ∧
      (entries.map Prod.fst).Nodup ∧
      ∀ field ∈ entries.map Prod.fst, draft.holds field = false := by
  induction members generalizing draft with
  | nil => exact ⟨hreads, List.nodup_nil, by simp [Reader.written]⟩
  | cons member rest ih =>
      obtain ⟨next, hread, hrest⟩ := bind_eq_ok_iff.mp hreads
      obtain ⟨field, hname, hnew, hread⟩ := Draft.readMember_eq_ok hread
      obtain ⟨hlater, honce, hunread⟩ := ih hrest
      have hentries : reader.written (.object (member :: rest)) =
          (field, member.2) :: reader.written (.object rest) := by
        simp [Reader.written, Reader.fieldOf?, hname, Field.ofName?_name]
      obtain ⟨⟨result, -, hget⟩, hothers⟩ := Draft.get?_read hread
      have hfresh : field ∉ (reader.written (.object rest)).map Prod.fst := by
        intro hmem
        have hnot := hunread field hmem
        rw [Draft.holds_eq_isSome, hget] at hnot
        contradiction
      rw [hentries]
      refine ⟨bind_eq_ok_iff.mpr ⟨next, hread, hlater⟩, List.nodup_cons.mpr ⟨hfresh, honce⟩, ?_⟩
      intro other hmem
      rcases List.mem_cons.mp hmem with rfl | hmem
      · exact hnew
      · have hother : other ≠ field := fun hsame => hfresh (hsame ▸ hmem)
        rw [Draft.holds_eq_isSome, ← hothers other hother, ← Draft.holds_eq_isSome]
        exact hunread other hmem

theorem obeys_of_reads (tree : Tree) {final : Draft}
    (hreads : (reader.written tree).foldlM
      (fun draft (field, value) => Draft.read reader draft field value) {} = .ok final)
    (honce : ((reader.written tree).map Prod.fst).Nodup) (field : Field) :
    final.settings.Obeys reader tree field := by
  have hget := get?_of_reads hreads honce field
  unfold Obeys Reader.written?
  rw [Draft.get_settings]
  cases hwritten : (reader.written tree).lookup field with
  | some value =>
      rw [hwritten] at hget
      obtain ⟨result, hresult, hsome⟩ := hget
      rw [hsome]
      exact hresult
  | none =>
      rw [hwritten] at hget
      rw [hget, Draft.get?_empty]
      rfl

theorem obeys_of_tree {tree : Tree} {settings : Settings}
    (haccepted : reader.settingsIn tree = .ok settings) (field : Field) :
    settings.Obeys reader tree field := by
  cases tree with
  | object members =>
      obtain ⟨final, hreads, rfl⟩ := map_eq_ok_iff.mp haccepted
      obtain ⟨hreads, honce, -⟩ := reads_of_members hreads
      exact obeys_of_reads _ hreads honce field
  | list items =>
      obtain ⟨final, hreads, rfl⟩ := map_eq_ok_iff.mp haccepted
      have honce : ((reader.written (.list items)).map Prod.fst).Nodup := by
        rw [Reader.written, List.zip_eq_zip_take_min, List.map_fst_zip (by simp)]
        exact List.Nodup.sublist (List.take_sublist _ _) (by decide)
      exact obeys_of_reads (.list items) hreads honce field
  | _ =>
      simp only [Reader.settingsIn] at haccepted
      obtain ⟨found, -, hrest⟩ := bind_eq_ok_iff.mp haccepted
      contradiction

end Reading

/-! ## Sizes of queues -/

theorem Reader.size_eq_ok_iff {reader : Reader} {value : Tree} {size : Nat} :
    reader.size value = .ok size ↔ ∃ number double, value = .number number ∧
      reader.double number = .ok double ∧ double.saturate maxSize = size := by
  cases value <;> simp [Reader.size, map_eq_ok_iff]

/-- A tree writes a size that is larger than any queue admits, however it is held within the
range of sizes. -/
def Reader.Oversized (reader : Reader) (tree : Tree) : Prop :=
  ∃ number double, reader.written? .metaEventQueueSize tree = some (.number number) ∧
    reader.double number = .ok double ∧ Board.maxCapacity < double.saturate maxSize

namespace Obeys

variable {reader : Reader} {settings : Settings} {tree : Tree}

theorem queueSize_le (hobeys : settings.Obeys reader tree .metaEventQueueSize) :
    settings.metaEventQueueSize ≤ maxSize := by
  unfold Obeys at hobeys
  split at hobeys
  next value hwritten =>
    obtain ⟨number, double, -, -, hsize⟩ := Reader.size_eq_ok_iff.mp hobeys
    have hsame : settings.metaEventQueueSize = double.saturate maxSize := hsize.symm
    rw [hsame]
    exact double.saturate_le maxSize
  next hwritten =>
    have hdefault : settings.metaEventQueueSize = 64 := hobeys
    rw [hdefault]
    decide

theorem oversized_iff (hobeys : settings.Obeys reader tree .metaEventQueueSize) :
    reader.Oversized tree ↔ Board.maxCapacity < settings.metaEventQueueSize := by
  unfold Obeys at hobeys
  split at hobeys
  next value hwritten =>
    obtain ⟨number, double, rfl, hdouble, hsize⟩ := Reader.size_eq_ok_iff.mp hobeys
    have hsame : settings.metaEventQueueSize = double.saturate maxSize := hsize.symm
    constructor
    · rintro ⟨other, read, hother, hread, hlarge⟩
      rw [hwritten, Option.some.injEq, Tree.number.injEq] at hother
      rw [← hother, hdouble, Except.ok.injEq] at hread
      rwa [hsame, hread]
    · intro hlarge
      exact ⟨number, double, hwritten, hdouble, hsame ▸ hlarge⟩
  next hwritten =>
    have hdefault : settings.metaEventQueueSize = 64 := hobeys
    refine iff_of_false ?_ (by rw [hdefault]; decide)
    rintro ⟨number, double, hnumber, -⟩
    rw [hwritten] at hnumber
    contradiction

end Obeys

/-- The settings of every text that a reader accepts have what the text writes, with a size within
the range of sizes.  In every run of a dealer with these settings a queue has that size, or one
for none; and a consumer can be enabled exactly if the text does not write an oversized one. -/
theorem capacity_of_text {reader : Reader} {text : String} {settings : Settings}
    (haccepted : reader.settings text = .ok settings) :
    ∃ tree, reader.tree? text = some tree ∧ (∀ field, settings.Obeys reader tree field) ∧
      ∀ operations : List AnnouncingDealer.Operation,
        let announcing := Run.final AnnouncingDealer.perform (.ofSettings settings) operations
        announcing.board.capacity = max settings.metaEventQueueSize 1 ∧
          1 ≤ announcing.board.capacity ∧ announcing.board.capacity ≤ maxSize ∧
          (announcing.board.capacity ≤ Board.maxCapacity ↔ ¬ reader.Oversized tree) ∧
          (announcing.enable? = none ↔ reader.Oversized tree) := by
  unfold Reader.settings at haccepted
  split at haccepted
  next => contradiction
  next tree htree =>
    have hobeys := obeys_of_tree haccepted
    refine ⟨tree, htree, hobeys, fun operations => ?_⟩
    intro announcing
    have hsize : announcing.board.queueSize = settings.metaEventQueueSize :=
      AnnouncingDealer.queueSize_final (.ofSettings settings) operations
    have hcapacity : announcing.board.capacity = max settings.metaEventQueueSize 1 := by
      rw [Board.capacity, hsize]
    have hadmitted : announcing.board.capacity ≤ Board.maxCapacity ↔ ¬ reader.Oversized tree := by
      rw [AnnouncingDealer.capacity_le_iff, hsize, (hobeys .metaEventQueueSize).oversized_iff,
        Nat.not_lt]
    refine ⟨hcapacity, ?_, ?_, hadmitted, ?_⟩
    · exact hcapacity ▸ Nat.le_max_right _ _
    · exact hcapacity ▸ Nat.max_le.mpr ⟨(hobeys .metaEventQueueSize).queueSize_le, by decide⟩
    · have hnone : announcing.enable? = none ↔ ¬ announcing.board.capacity ≤ Board.maxCapacity := by
        simp [AnnouncingDealer.enable?, Board.enable?]
      rw [hnone, hadmitted, Classical.not_not]

/-- A negative size is none, and a queue still holds one announcement. -/
theorem capacity_negative :
    let text := "\x7bmeta_event_queue_size: -7, auto_disclose_caller: true\x7d"
    let settings : Settings := { autoDiscloseCaller := true, metaEventQueueSize := 0 }
    ofText text = .ok settings ∧
      ∀ operations : List AnnouncingDealer.Operation,
        let announcing := Run.final AnnouncingDealer.perform (.ofSettings settings) operations
        announcing.board.capacity = 1 ∧ announcing.enable? ≠ none := by
  intro text settings
  have haccepted : json5.settings text = .ok settings := by decide +kernel
  obtain ⟨tree, -, -, hruns⟩ := capacity_of_text haccepted
  have hadmitted : ¬ json5.Oversized tree := (hruns []).2.2.2.1.mp (by decide)
  refine ⟨haccepted, fun operations => ?_⟩
  obtain ⟨hcapacity, -, -, -, henabled⟩ := hruns operations
  exact ⟨hcapacity, mt henabled.mp hadmitted⟩

/-- A size beyond the range is read as the largest one, which no queue admits. -/
theorem enable?_oversized :
    let text := "\x7bmeta_event_queue_size: 1e30\x7d"
    let settings : Settings := { metaEventQueueSize := 18446744073709551615 }
    let announcing := AnnouncingDealer.ofSettings settings
    ofText text = .ok settings ∧ announcing.board.capacity = maxSize ∧
      ¬ announcing.board.capacity ≤ maxSize >>> 3 ∧ announcing.enable? = none := by
  decide +kernel

end Settings

end Wamp
