import Permit.Json.Kind
import Permit.Log.Settings

/-!
# Settings in documents

Which documents are settings, and of which settings. An object is, if those of its members that are looked for are of
their kinds, and a list is what the object is that has its items for the members; what is written comes back.
-/

namespace Permit.Log.Settings

/-! ## Flags that are set -/

inductive Change where
  | target (on : Bool)
  | ansi (on : Bool)

def Change.target? : Change → Option Bool
  | .target on => some on
  | .ansi _ => none

def Change.ansi? : Change → Option Bool
  | .target _ => none
  | .ansi on => some on

def change (s : Settings) : Change → Settings
  | .target on => s.setTarget on
  | .ansi on => s.setAnsi on

def changeAll (s : Settings) (changes : List Change) : Settings := changes.foldl change s

/-- For each flag the last change counts, and nothing else is changed. -/
theorem changeAll_eq (s : Settings) (changes : List Change) :
    s.changeAll changes =
      ⟨s.filter, (changes.filterMap Change.target?).getLast?.getD s.withTarget,
        (changes.filterMap Change.ansi?).getLast?.getD s.ansi⟩ := by
  induction changes generalizing s with
  | nil => rfl
  | cons c cs ih =>
      rw [changeAll, List.foldl_cons, ← changeAll, ih]
      cases c with
      | target on => simp [change, setTarget, Change.target?, Change.ansi?, List.getLast?_cons]
      | ansi on => simp [change, setAnsi, Change.target?, Change.ansi?, List.getLast?_cons]

/-! ## Members -/

/-- A member that is looked for in a document, with the kind that it has to be of. -/
structure Member where
  name : String
  kind : Kind
  expected : String

namespace Member

def ansi : Member := ⟨"ansi", .boolean, "a boolean"⟩

def filter : Member := ⟨"filter", .string, "a string"⟩

def withTarget : Member := ⟨"with_target", .boolean, "a boolean"⟩

/-- All of them, in the order of their names. -/
def all : List Member := [ansi, filter, withTarget]

/-- If the member is there, it is of its kind. -/
def Fits (p : Member) (d : Dictionary Json) : Prop := ∀ value, d.get? p.name = some value → Kind.of (some value) = p.kind

/-- The member is there, but of another kind, and this is what is said of it. -/
def Refuses (p : Member) (d : Dictionary Json) (e : Mismatch) : Prop :=
  ∃ value, d.get? p.name = some value ∧ Kind.of (some value) ≠ p.kind ∧ e = .kind (found value) p.expected

theorem forall_mem_all {P : Member → Prop} : (∀ p ∈ all, P p) ↔ P ansi ∧ P filter ∧ P withTarget := by
  simp [all]

theorem fits_iff {p : Member} {d : Dictionary Json} : p.Fits d ↔ ∀ e, ¬ p.Refuses d e := by
  constructor
  · rintro hfits e ⟨value, hget, hkind, -⟩
    exact hkind (hfits value hget)
  · intro hnone value hget
    exact Decidable.byContradiction fun hkind => hnone _ ⟨value, hget, hkind, rfl⟩

end Member

/-- The value that is given, or the default if none is. -/
def Given {α : Type} (wrap : α → Json) (default : α) (value? : Option Json) (a : α) : Prop :=
  value? = some (wrap a) ∨ value? = none ∧ a = default

/-- The settings are what the members of the document say, and the defaults where they say nothing. -/
structure Describes (d : Dictionary Json) (s : Settings) : Prop where
  filter : Given .string "info" (d.get? "filter") s.filter
  withTarget : Given .bool false (d.get? "with_target") s.withTarget
  ansi : Given .bool true (d.get? "ansi") s.ansi

/-- A reader of the values of one kind. -/
structure Reads {α : Type} (read : Json → Except Mismatch α) (wrap : α → Json) (kind : Kind) (expected : String) :
    Prop where
  takes : ∀ value a, read value = .ok a ↔ value = wrap a
  refuses : ∀ value e, read value = .error e ↔ Kind.of (some value) ≠ kind ∧ e = .kind (found value) expected

theorem text_reads : Reads text? .string .string "a string" where
  takes value a := by cases value <;> simp [text?]
  refuses value e := by cases value <;> simp [text?, Kind.of, eq_comm]

theorem flag_reads : Reads flag? .bool .boolean "a boolean" where
  takes value a := by cases value <;> simp [flag?]
  refuses value e := by cases value <;> simp [flag?, Kind.of, eq_comm]

section

variable {α : Type} {read : Json → Except Mismatch α} {wrap : α → Json} {kind : Kind} {expected : String}

theorem part_eq_ok_iff (h : Reads read wrap kind expected) {default a : α} {value? : Option Json} :
    part read default value? = .ok a ↔ Given wrap default value? a := by
  cases value? with
  | none => simp [part, Given, eq_comm]
  | some value => simp [part, Given, h.takes]

theorem part_eq_error_iff (h : Reads read wrap kind expected) {default : α} {value? : Option Json} {e : Mismatch} :
    part read default value? = .error e ↔
      ∃ value, value? = some value ∧ Kind.of (some value) ≠ kind ∧ e = .kind (found value) expected := by
  cases value? with
  | none => simp [part]
  | some value => simp [part, h.refuses]

end

variable {d d' : Dictionary Json} {items : List Json} {s : Settings} {e : Mismatch}

theorem part_ansi_error_iff : part flag? true (d.get? "ansi") = .error e ↔ Member.ansi.Refuses d e :=
  part_eq_error_iff flag_reads

theorem part_filter_error_iff : part text? "info" (d.get? "filter") = .error e ↔ Member.filter.Refuses d e :=
  part_eq_error_iff text_reads

theorem part_withTarget_error_iff :
    part flag? false (d.get? "with_target") = .error e ↔ Member.withTarget.Refuses d e :=
  part_eq_error_iff flag_reads

/-! ## Objects -/

theorem decode_object_eq_ok_iff : decode (.object d) = .ok s ↔ Describes d s := by
  obtain ⟨filter, withTarget, ansi⟩ := s
  have hparts : decode (.object d) = .ok ⟨filter, withTarget, ansi⟩ ↔
      part text? "info" (d.get? "filter") = .ok filter ∧ part flag? false (d.get? "with_target") = .ok withTarget ∧
        part flag? true (d.get? "ansi") = .ok ansi := by
    rw [decode, ofMembers]
    cases part flag? true (d.get? "ansi") <;> cases part text? "info" (d.get? "filter") <;>
      cases part flag? false (d.get? "with_target") <;> simp [bind, Except.bind, pure, Except.pure]
  rw [hparts, part_eq_ok_iff text_reads, part_eq_ok_iff flag_reads, part_eq_ok_iff flag_reads]
  exact ⟨fun ⟨hfilter, htarget, hansi⟩ => ⟨hfilter, htarget, hansi⟩, fun h => ⟨h.filter, h.withTarget, h.ansi⟩⟩

theorem decode_object_eq_error_iff :
    decode (.object d) = .error e ↔
      Member.ansi.Refuses d e ∨ Member.ansi.Fits d ∧
        (Member.filter.Refuses d e ∨ Member.filter.Fits d ∧ Member.withTarget.Refuses d e) := by
  simp only [Member.fits_iff, ← part_ansi_error_iff, ← part_filter_error_iff, ← part_withTarget_error_iff]
  rw [decode, ofMembers]
  cases part flag? true (d.get? "ansi") <;> cases part text? "info" (d.get? "filter") <;>
    cases part flag? false (d.get? "with_target") <;> simp [bind, Except.bind, pure, Except.pure]

theorem decode_object_ok_iff : (∃ s, decode (.object d) = .ok s) ↔ ∀ p ∈ Member.all, p.Fits d := by
  have hok : (∃ s, decode (.object d) = .ok s) ↔ ∀ e, decode (.object d) ≠ .error e := by
    cases decode (.object d) <;> simp
  rw [hok, Member.forall_mem_all]
  constructor
  · intro hnone
    have hansi : Member.ansi.Fits d :=
      Member.fits_iff.mpr fun e h => hnone e (decode_object_eq_error_iff.mpr (.inl h))
    have hfilter : Member.filter.Fits d :=
      Member.fits_iff.mpr fun e h => hnone e (decode_object_eq_error_iff.mpr (.inr ⟨hansi, .inl h⟩))
    have htarget : Member.withTarget.Fits d :=
      Member.fits_iff.mpr fun e h => hnone e (decode_object_eq_error_iff.mpr (.inr ⟨hansi, .inr ⟨hfilter, h⟩⟩))
    exact ⟨hansi, hfilter, htarget⟩
  · rintro ⟨hansi, hfilter, htarget⟩ e h
    rcases decode_object_eq_error_iff.mp h with h | ⟨-, h | ⟨-, h⟩⟩
    · exact Member.fits_iff.mp hansi e h
    · exact Member.fits_iff.mp hfilter e h
    · exact Member.fits_iff.mp htarget e h

/-- Of several members that do not fit the first is blamed, in the order of their names. -/
theorem decode_object_blames_first :
    decode (.object d) = .error e ↔
      ∃ p ∈ Member.all, p.Refuses d e ∧ ∀ q ∈ Member.all, q.name < p.name → q.Fits d := by
  -- The members are read in the order of their names, so those that come before by name are those that were read before.
  simp only [Member.forall_mem_all]
  rw [decode_object_eq_error_iff]
  constructor
  · rintro (h | ⟨hansi, h | ⟨hfilter, h⟩⟩)
    · refine ⟨.ansi, by simp [Member.all], h, ?_, ?_, ?_⟩ <;> exact fun hlt => absurd hlt (by decide)
    · refine ⟨.filter, by simp [Member.all], h, fun _ => hansi, ?_, ?_⟩ <;> exact fun hlt => absurd hlt (by decide)
    · exact ⟨.withTarget, by simp [Member.all], h, fun _ => hansi, fun _ => hfilter, fun hlt => absurd hlt (by decide)⟩
  · rintro ⟨p, hp, h, hansi, hfilter, -⟩
    rw [Member.all, List.mem_cons, List.mem_cons, List.mem_singleton] at hp
    rcases hp with rfl | rfl | rfl
    · exact .inl h
    · exact .inr ⟨hansi (by decide), .inl h⟩
    · exact .inr ⟨hansi (by decide), .inr ⟨hfilter (by decide), h⟩⟩

theorem decode_object_congr (h : ∀ p ∈ Member.all, d.get? p.name = d'.get? p.name) :
    decode (.object d) = decode (.object d') := by
  obtain ⟨hansi, hfilter, htarget⟩ := Member.forall_mem_all.mp h
  have hget : d.get? "ansi" = d'.get? "ansi" ∧ d.get? "filter" = d'.get? "filter" ∧
      d.get? "with_target" = d'.get? "with_target" := ⟨hansi, hfilter, htarget⟩
  rw [decode, decode, ofMembers, ofMembers, hget.1, hget.2.1, hget.2.2]

/-! ## Lists -/

/-- The names of the members in the order in which a list gives them. -/
def listed : List String := ["filter", "with_target", "ansi"]

/-- The object that has the items for its members, as far as they go. -/
def leading (items : List Json) : Dictionary Json := Dictionary.ofList (listed.zip items)

theorem get?_leading (items : List Json) :
    (leading items).get? "filter" = items[0]? ∧ (leading items).get? "with_target" = items[1]? ∧
      (leading items).get? "ansi" = items[2]? := by
  match items with
  | [] | [_] | [_, _] | _ :: _ :: _ :: _ => simp [leading, listed, Dictionary.ofList, Dictionary.get?_insert]

theorem decode_array_eq_ok_iff :
    decode (.array items) = .ok s ↔ items.length ≤ 3 ∧ decode (.object (leading items)) = .ok s := by
  obtain ⟨hfilter, htarget, hansi⟩ := get?_leading items
  rw [decode, decode, ofItems, ofMembers, hfilter, htarget, hansi, ← Nat.not_lt]
  cases part text? "info" items[0]? <;> cases part flag? false items[1]? <;> cases part flag? true items[2]? <;>
    by_cases hlong : 3 < items.length <;> simp [hlong, bind, Except.bind, pure, Except.pure]

theorem decode_array_ok_iff :
    (∃ s, decode (.array items) = .ok s) ↔ items.length ≤ 3 ∧ ∀ p ∈ Member.all, p.Fits (leading items) := by
  simp only [decode_array_eq_ok_iff, exists_and_left, decode_object_ok_iff]

/-- Settings come back from what is written of them, as an object or as a list, however their flags were set, and of the
changes of a flag the last counts. An object is settings exactly if its members are of their kinds; it is read for these
members only, with the defaults for those it leaves out, and of several that do not fit the first by name is blamed. A
list is settings exactly if it has at most three items and the object with these for its members is the same settings.
Nothing else is. -/
theorem decode_written :
    (∀ (s : Settings) changes,
      s.changeAll changes =
        ⟨s.filter, (changes.filterMap Change.target?).getLast?.getD s.withTarget,
          (changes.filterMap Change.ansi?).getLast?.getD s.ansi⟩ ∧
      decode (s.changeAll changes).encode = .ok (s.changeAll changes)) ∧
    (∀ d : Dictionary Json,
      ((∃ s, decode (.object d) = .ok s) ↔ ∀ p ∈ Member.all, p.Fits d) ∧
      (∀ s, decode (.object d) = .ok s ↔ Describes d s) ∧
      (∀ e, decode (.object d) = .error e ↔
        ∃ p ∈ Member.all, p.Refuses d e ∧ ∀ q ∈ Member.all, q.name < p.name → q.Fits d) ∧
      ∀ d' : Dictionary Json, (∀ p ∈ Member.all, d.get? p.name = d'.get? p.name) →
        decode (.object d) = decode (.object d')) ∧
    (∀ items,
      ((∃ s, decode (.array items) = .ok s) ↔ items.length ≤ 3 ∧ ∀ p ∈ Member.all, p.Fits (leading items)) ∧
      ∀ s, decode (.array items) = .ok s ↔ items.length ≤ 3 ∧ decode (.object (leading items)) = .ok s) ∧
    (∀ s : Settings, decode (.array [.string s.filter, .bool s.withTarget, .bool s.ansi]) = decode s.encode) ∧
    (∀ items : List Json, 3 < items.length → ∃ e, decode (.array items) = .error e) ∧
    (∀ v, Kind.of (some v) ∉ [.array, .object] → decode v = .error (.kind (found v) "struct TelemetryConfig")) := by
  refine ⟨fun s changes => ⟨changeAll_eq s changes, decode_encode _⟩,
    fun d => ⟨decode_object_ok_iff, fun s => decode_object_eq_ok_iff, fun e => decode_object_blames_first,
      fun d' => decode_object_congr⟩,
    fun items => ⟨decode_array_ok_iff, fun s => decode_array_eq_ok_iff⟩, fun s => (decode_encode s).symm,
    fun items hlong => ?_, fun v hkind => ?_⟩
  · cases hdecode : decode (.array items) with
    | ok s => exact absurd (decode_array_eq_ok_iff.mp hdecode).1 (Nat.not_le.mpr hlong)
    | error e => exact ⟨e, rfl⟩
  · cases v with
    | array | object => simp [Kind.of] at hkind
    | _ => rfl

/-- Of two bad members the one that comes first by name is blamed, and a member that is not looked for does not matter; a
list of one item leaves the rest to the defaults. -/
theorem decode_written_partly :
    let bad : Dictionary Json := .cons "ansi" .null (.cons "colour" .null (.cons "filter" (.bool true) .nil))
    decode (.object bad) = .error (.kind "null" "a boolean") ∧
    decode (.array [.string "debug"]) = .ok ⟨"debug", false, true⟩ ∧
    decode (.object (.cons "filter" (.string "debug") (.cons "level" .null .nil))) = .ok ⟨"debug", false, true⟩ ∧
    (∃ e, decode (.array [.string "debug", .bool true, .bool true, .null]) = .error e) ∧
    decode (.string "debug") = .error (.kind (found (.string "debug")) "struct TelemetryConfig") := by
  intro bad
  obtain ⟨-, hobject, hlist, -, hlong, hother⟩ := decode_written
  obtain ⟨-, -, hblame, -⟩ := hobject bad
  obtain ⟨-, hdescribes, -, hsame⟩ := hobject (.single "filter" (.string "debug"))
  have hdebug : decode (.object (.single "filter" (.string "debug"))) = .ok ⟨"debug", false, true⟩ :=
    (hdescribes _).mpr ⟨.inl rfl, .inr ⟨rfl, rfl⟩, .inr ⟨rfl, rfl⟩⟩
  refine ⟨(hblame _).mpr ⟨.ansi, by simp [Member.all], ⟨.null, rfl, nofun, rfl⟩, ?_⟩,
    ((hlist [.string "debug"]).2 _).mpr ⟨by decide, hdebug⟩, ?_, hlong _ (by decide), hother _ (by decide)⟩
  · exact fun q hq hlt => absurd hlt ((by decide : ∀ q ∈ Member.all, ¬ q.name < Member.ansi.name) q hq)
  · have hextra := hsame (.cons "filter" (.string "debug") (.cons "level" .null .nil))
      (Member.forall_mem_all.mpr ⟨rfl, rfl, rfl⟩)
    exact hextra.symm.trans hdebug

end Permit.Log.Settings
