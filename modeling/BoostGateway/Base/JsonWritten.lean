import BoostGateway.Base.JsonRoundTrip

/-!
# Documents as they are written

A float that is no number is written as `null`. `asWritten` is the document as its text has it, and
`readBack` the one that is read from the text : `parse_dump_of_written`, for documents whose
floats are written so that they read back, or as `null` (`Written`).
-/

namespace BoostGateway

namespace Json

def nullText : List Char := ['n', 'u', 'l', 'l']

variable (floatText : Float → List Char) (style : Option ℕ)

mutual

/-- The document with `null` for the floats that are written so. -/
def asWritten : Json → Json
  | .float x => if floatText x = nullText then .null else .float x
  | .array xs => .array (asWrittenElems xs)
  | .object ms => .object (asWrittenMembers ms)
  | .null => .null
  | .bool b => .bool b
  | .unsigned n => .unsigned n
  | .integer i => .integer i
  | .string s => .string s

def asWrittenElems : List Json → List Json
  | [] => []
  | x :: xs => asWritten x :: asWrittenElems xs

def asWrittenMembers : List (String × Json) → List (String × Json)
  | [] => []
  | (k, v) :: ms => (k, asWritten v) :: asWrittenMembers ms

end

mutual

/-- The members of objects are in increasing order of their keys, as the library keeps them, and
the floats are written as it writes them. -/
def Written : Json → Prop
  | .float x => FloatReads floatText x ∨ floatText x = nullText
  | .array xs => WrittenElems xs
  | .object ms => (ms.map Prod.fst).Pairwise (keyLess · ·) ∧ WrittenMembers ms
  | .null | .bool _ | .unsigned _ | .integer _ | .string _ => True

def WrittenElems : List Json → Prop
  | [] => True
  | x :: xs => Written x ∧ WrittenElems xs

def WrittenMembers : List (String × Json) → Prop
  | [] => True
  | (_, v) :: ms => Written v ∧ WrittenMembers ms

end

/-- The document that is read from the text. -/
def readBack (j : Json) : Json := asRead (asWritten floatText j)

variable {floatText style}

theorem map_fst_asWrittenMembers (ms : List (String × Json)) :
    (asWrittenMembers floatText ms).map Prod.fst = ms.map Prod.fst := by
  induction ms with
  | nil => rfl
  | cons m ms ih => rw [asWrittenMembers, List.map_cons, List.map_cons, ih]

mutual

theorem dump_asWritten (j : Json) (indent : ℕ) :
    dump floatText style indent (asWritten floatText j) = dump floatText style indent j := by
  match j with
  | .float x =>
    rw [asWritten]
    split_ifs with hnull
    · rw [dump, dump, hnull, nullText]
    · rfl
  | .array xs => rw [asWritten, dump, dump, dumpElems_asWritten xs]
  | .object ms => rw [asWritten, dump, dump, dumpMembers_asWritten ms]
  | .null | .bool _ | .unsigned _ | .integer _ | .string _ => rfl

theorem dumpElems_asWritten (xs : List Json) (indent : ℕ) :
    dumpElems floatText style indent (asWrittenElems floatText xs) =
      dumpElems floatText style indent xs := by
  match xs with
  | [] => rfl
  | x :: xs => rw [asWrittenElems, dumpElems, dumpElems, dump_asWritten x, dumpElems_asWritten xs]

theorem dumpMembers_asWritten (ms : List (String × Json)) (indent : ℕ) :
    dumpMembers floatText style indent (asWrittenMembers floatText ms) =
      dumpMembers floatText style indent ms := by
  match ms with
  | [] => rfl
  | (k, v) :: ms =>
    rw [asWrittenMembers, dumpMembers, dumpMembers, dump_asWritten v, dumpMembers_asWritten ms]

end

mutual

theorem readable_asWritten (j : Json) (hj : Written floatText j) :
    Readable floatText (asWritten floatText j) := by
  match j with
  | .float x =>
    rw [asWritten]
    split_ifs with hnull
    · trivial
    · exact Or.resolve_right hj hnull
  | .array xs => exact readableElems_asWritten xs hj
  | .object ms =>
    refine ⟨?_, readableMembers_asWritten ms hj.2⟩
    rw [map_fst_asWrittenMembers]
    exact hj.1
  | .null | .bool _ | .unsigned _ | .integer _ | .string _ => trivial

theorem readableElems_asWritten (xs : List Json) (hj : WrittenElems floatText xs) :
    ReadableElems floatText (asWrittenElems floatText xs) := by
  match xs with
  | [] => trivial
  | x :: xs => exact ⟨readable_asWritten x hj.1, readableElems_asWritten xs hj.2⟩

theorem readableMembers_asWritten (ms : List (String × Json)) (hj : WrittenMembers floatText ms) :
    ReadableMembers floatText (asWrittenMembers floatText ms) := by
  match ms with
  | [] => trivial
  | (k, v) :: ms => exact ⟨readable_asWritten v hj.1, readableMembers_asWritten ms hj.2⟩

end

/-- What is read from the text of a document. -/
theorem parse_dump_of_written {j : Json} (hj : Written floatText j) (strict : Bool) (indent : ℕ) :
    parse strict (encodeUtf8 (dump floatText style indent j)) = some (readBack floatText j) := by
  rw [← dump_asWritten, parse_dump_of_readable (readable_asWritten j hj), readBack]

/-! ## Objects -/

theorem find?_asWritten (j : Json) (key : String) :
    (asWritten floatText j).find? key = (j.find? key).map (asWritten floatText) := by
  cases j with
  | object ms =>
    rw [asWritten]
    induction ms with
    | nil => rfl
    | cons m ms ih =>
      obtain ⟨k, v⟩ := m
      by_cases hk : k = key
      · simp [asWrittenMembers, find?, hk]
      · simpa [asWrittenMembers, find?, hk] using ih
  | float x =>
    rw [asWritten]
    split_ifs
    · rfl
    · rfl
  | _ => rfl

theorem find?_readBack (j : Json) (key : String) :
    (readBack floatText j).find? key = (j.find? key).map (readBack floatText) := by
  rw [readBack, find?_asRead, find?_asWritten, Option.map_map]
  rfl

variable {ms : List (String × Json)}

theorem writtenMembers_insertMember (h : WrittenMembers floatText ms)
    (key : String) {value : Json} (hv : Written floatText value) :
    WrittenMembers floatText (insertMember key value ms) := by
  induction ms with
  | nil => exact ⟨hv, trivial⟩
  | cons m ms ih =>
    rw [insertMember]
    split_ifs
    · exact ⟨hv, h⟩
    · exact ⟨hv, h.2⟩
    · exact ⟨h.1, ih h.2⟩

theorem written_of_mem (h : WrittenMembers floatText ms)
    {m : String × Json} (hm : m ∈ ms) : Written floatText m.2 := by
  induction ms with
  | nil => cases hm
  | cons m' ms ih =>
    rcases List.mem_cons.mp hm with rfl | hm
    · exact h.1
    · exact ih h.2 hm

/-- An object made of such members is one. -/
theorem written_ofMembers (h : ∀ m ∈ ms, Written floatText m.2) :
    Written floatText (ofMembers ms) := by
  suffices hacc : ∀ acc : List (String × Json), (acc.map Prod.fst).Pairwise (keyLess · ·) →
      WrittenMembers floatText acc →
      Written floatText (.object (ms.foldl (fun acc m => insertMember m.1 m.2 acc) acc)) from
    hacc [] .nil trivial
  induction ms with
  | nil => exact fun acc hkeys hacc => ⟨hkeys, hacc⟩
  | cons m ms ih =>
    intro acc hkeys hacc
    exact ih (fun m' hm' => h m' (List.mem_cons_of_mem _ hm')) _
      (pairwise_insertMember hkeys m.1 m.2).1
      (writtenMembers_insertMember hacc m.1 (h m List.mem_cons_self))

/-- Of members that are set over others, those that were set later are found. -/
theorem find?_ofMembers_append_sorted {ms' : List (String × Json)}
    (h : (ms'.map Prod.fst).Pairwise (keyLess · ·)) (key : String) :
    (ofMembers (ms ++ ms')).find? key =
      ((Json.object ms').find? key).or ((ofMembers ms).find? key) := by
  rw [← ofMembers_of_pairwise h, find?_ofMembers, find?_ofMembers, find?_ofMembers,
    List.reverse_append, List.find?_append]
  cases ms'.reverse.find? fun m => m.1 = key <;> rfl

end Json

end BoostGateway
