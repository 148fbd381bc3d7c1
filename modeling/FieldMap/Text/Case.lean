import FieldMap.Text.CaseTable

/-!
# Upper and lower case

Case mapping of whole texts. `upperForm` and `lowerForm` give the mapping of one character, which
may be several characters; `lowercase` maps a text and writes the sigma that ends a word in its
final form. `capitalizeFirst` and `capitalize` raise the first character only, and differ in what
they do with the rest.
-/

namespace FieldMap.Text

/-- The other case of `c` in a table of runs: shifted by the run that covers it, else itself. -/
def shiftCase (runs : List CaseRun) (c : Char) : Char :=
  match runs.find? (·.covers c.toNat) with
  | some run => Char.ofNat ((c.toNat : Int) + run.shift).toNat
  | none => c

/-- The upper case of a character. -/
def upperForm (c : Char) : List Char :=
  if c.toNat < 128 then [c.toUpper]
  else match upperSequences.lookup c.toNat with
    | some codes => codes.map Char.ofNat
    | none => [shiftCase upperRuns c]

/-- The lower case of a character that stands alone. -/
def lowerForm (c : Char) : List Char :=
  if c.toNat < 128 then [c.toLower]
  else match lowerSequences.lookup c.toNat with
    | some codes => codes.map Char.ofNat
    | none => [shiftCase lowerRuns c]

theorem upperForm_ascii {c : Char} (h : c.toNat < 128) : upperForm c = [c.toUpper] := by
  simp [upperForm, h]

theorem lowerForm_ascii {c : Char} (h : c.toNat < 128) : lowerForm c = [c.toLower] := by
  simp [lowerForm, h]

/-- Whether a character has a case. -/
def isCased (c : Char) : Bool :=
  inRanges casedRanges c.toNat

/-- Whether a character is looked through when a word's end is sought. -/
def isCaseIgnorable (c : Char) : Bool :=
  inRanges caseIgnorableRanges c.toNat

/-- Whether a letter ends a word: the nearest character that is not ignorable has a case in
`before` (nearest first) and has none in `after`. -/
def endsWord (before after : List Char) : Bool :=
  (before.dropWhile isCaseIgnorable).head?.any isCased &&
    !(after.dropWhile isCaseIgnorable).head?.any isCased

/-- The lower case of `text`, which `before` (nearest first) precedes. -/
def lowercaseAfter (before : List Char) : (text : List Char) → List Char
  | [] => []
  | c :: rest =>
    (if c = 'Σ' then [if endsWord before rest then 'ς' else 'σ'] else lowerForm c) ++
      lowercaseAfter (c :: before) rest

/-- The lower case of a text; a sigma that ends a word takes its final form. -/
def lowercase (s : String) : String :=
  String.ofList (lowercaseAfter [] s.toList)

theorem lowercaseAfter_ascii {text : List Char} (h : ∀ c ∈ text, c.toNat < 128)
    (before : List Char) : lowercaseAfter before text = text.map Char.toLower := by
  induction text generalizing before with
  | nil => rfl
  | cons c rest ih =>
    have hc : c.toNat < 128 := h c (List.mem_cons_self ..)
    have hne : c ≠ 'Σ' := by rintro rfl; exact absurd hc (by decide)
    simp [lowercaseAfter, hne, lowerForm_ascii hc,
      ih fun x hx => h x (List.mem_cons_of_mem _ hx)]

/-- The text with its first character in upper case and the rest as it is. -/
def capitalizeFirst (s : String) : String :=
  match s.toList with
  | [] => ""
  | c :: rest => String.ofList (upperForm c ++ rest)

/-- The text with its first character in upper case and every other one in lower case. Each
character is mapped alone, so a sigma never takes its final form here. -/
def capitalize (s : String) : String :=
  match s.toList with
  | [] => ""
  | c :: rest => String.ofList (upperForm c ++ rest.flatMap lowerForm)

end FieldMap.Text
