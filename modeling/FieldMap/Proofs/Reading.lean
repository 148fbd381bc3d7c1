import FieldMap.Json.Parser
import FieldMap.Proofs.Members
import Mathlib.Data.Option.Basic

/-!
# No key twice in documents that have been read

The reader puts each member where its key already stands, so it never holds an object with a key
twice: neither does what one token leads to (`Reading.DistinctKeys.step`), and so neither does the
document that a text holds (`Json.distinctKeys_of_parse?`).
-/

namespace FieldMap

/-- What each step keeps, a run of steps keeps. -/
theorem foldlM_keeps {α β : Type} {P : β → Prop} {Q : α → Prop} {f : β → α → Option β}
    (step : ∀ {b a b'}, P b → Q a → f b a = some b' → P b') {l : List α} {b b' : β} (hb : P b)
    (hl : ∀ a ∈ l, Q a) (h : l.foldlM f b = some b') : P b' := by
  induction l generalizing b with
  | nil =>
    cases h
    exact hb
  | cons a rest ih =>
    rw [List.foldlM_cons] at h
    obtain ⟨between, hs, h⟩ := Option.bind_eq_some_iff.mp h
    obtain ⟨ha, hrest⟩ := List.forall_mem_cons.mp hl
    exact ih (step hb ha hs) hrest h

namespace Json

variable {value : Json} {members : Members}

theorem DistinctKeys.putMember (h : DistinctKeys (.object members)) (hv : value.DistinctKeys)
    (key : String) : DistinctKeys (.object (putMember members key value)) := by
  rw [putMember_eq_putEntry]
  exact distinctKeys_object_iff.mpr ⟨ClassTable.nodup_putEntry key value h.nodup, fun k v hm =>
    (ClassTable.mem_putEntry hm).elim (fun e => e ▸ hv) ((distinctKeys_object_iff.mp h).2 k v)⟩

/-! ## Tokens -/

theorem distinctKeys_of_decimalOf? {negative : Bool} {whole fraction : List Char} {power : Int}
    (h : decimalOf? negative whole fraction power = some value) : value.DistinctKeys := by
  obtain ⟨number, -, rfl⟩ := Option.map_eq_some_iff.mp h
  trivial

theorem distinctKeys_of_integerOf? {negative : Bool} {whole : List Char}
    (h : integerOf? negative whole = some value) : value.DistinctKeys := by
  simp only [integerOf?] at h
  split at h
  · exact distinctKeys_of_decimalOf? h
  · split at h
    · cases h
      trivial
    · split at h <;> cases h <;> trivial

theorem distinctKeys_of_numberOf? {text : List Char} (h : numberOf? text = some value) :
    value.DistinctKeys := by
  simp only [numberOf?, Option.bind_eq_bind] at h
  obtain ⟨-, -, h⟩ := Option.bind_eq_some_iff.mp h
  split at h
  · exact distinctKeys_of_integerOf? h
  · obtain ⟨-, -, h⟩ := Option.bind_eq_some_iff.mp h
    obtain ⟨power, -, h⟩ := Option.bind_eq_some_iff.mp h
    exact distinctKeys_of_decimalOf? h
  · obtain ⟨power, -, h⟩ := Option.bind_eq_some_iff.mp h
    exact distinctKeys_of_decimalOf? h

theorem distinctKeys_of_wordOf? {word : List Char} (h : wordOf? word = some value) :
    value.DistinctKeys := by
  unfold wordOf? at h
  split at h <;> cases h <;> trivial

namespace Token

/-- The value of a scalar has no key twice. -/
def DistinctKeys : Token → Prop
  | .scalar value => value.DistinctKeys
  | _ => True

theorem distinctKeys_of_mark? {c : Char} {token : Token} (h : mark? c = some token) :
    token.DistinctKeys := by
  unfold mark? at h
  split at h <;> cases h <;> trivial

/-- A token made of what is read first, and the tokens after it. -/
theorem distinctKeys_of_cons {α : Type} {first? : Option α} {others? : Option (List Token)}
    {t : α → Token} {tokens : List Token}
    (h : (do let first ← first?; return t first :: (← others?)) = some tokens)
    (hfirst : ∀ first, first? = some first → (t first).DistinctKeys)
    (hothers : ∀ others, others? = some others → ∀ token ∈ others, token.DistinctKeys) :
    ∀ token ∈ tokens, token.DistinctKeys := by
  obtain ⟨first, hf, h⟩ := Option.bind_eq_some_iff.mp h
  obtain ⟨others, ho, h⟩ := Option.bind_eq_some_iff.mp h
  cases h
  exact List.forall_mem_cons.mpr ⟨hfirst first hf, hothers others ho⟩

theorem distinctKeys_of_scan? {text : List Char} {tokens : List Token}
    (h : scan? text = some tokens) : ∀ token ∈ tokens, token.DistinctKeys := by
  induction text using scan?.induct generalizing tokens with
  | case1 =>
    rw [scan?] at h
    cases h
    exact nofun
  | case2 c rest hspace ih =>
    rw [scan?, if_pos hspace] at h
    exact ih h
  | case3 rest body after htaken hspace ih =>
    rw [scan?, if_neg hspace, if_pos rfl, htaken] at h
    exact distinctKeys_of_cons (t := .text) h (fun _ _ => trivial) fun _ => ih
  | case4 rest htaken hspace =>
    rw [scan?, if_neg hspace, if_pos rfl, htaken] at h
    cases h
  | case5 c rest hspace hquote hnumber ih =>
    rw [scan?, if_neg hspace, if_neg hquote, if_pos hnumber] at h
    exact distinctKeys_of_cons (t := .scalar) h (fun _ => distinctKeys_of_numberOf?) fun _ => ih
  | case6 c rest hspace hquote hnumber hword ih =>
    rw [scan?, if_neg hspace, if_neg hquote, if_neg hnumber, if_pos hword] at h
    exact distinctKeys_of_cons (t := .scalar) h (fun _ => distinctKeys_of_wordOf?) fun _ => ih
  | case7 c rest hspace hquote hnumber hword ih =>
    rw [scan?, if_neg hspace, if_neg hquote, if_neg hnumber, if_neg hword] at h
    exact distinctKeys_of_cons (t := id) h (fun _ => distinctKeys_of_mark?) fun _ => ih

end Token

/-! ## The reader -/

/-- No document in an open container has a key twice. -/
def Frame.DistinctKeys : Frame → Prop
  | .array items => ∀ item ∈ items, item.DistinctKeys
  | .object members | .member members _ => Json.DistinctKeys (.object members)

/-- No document that has been read has a key twice. -/
def Reading.DistinctKeys : Reading → Prop
  | .needValue stack | .firstItem stack | .next stack => ∀ frame ∈ stack, frame.DistinctKeys
  | .firstKey members outer | .needKey members outer | .needColon members _ outer =>
    Json.DistinctKeys (.object members) ∧ ∀ frame ∈ outer, frame.DistinctKeys
  | .done value => value.DistinctKeys

namespace Reading

variable {reading next : Reading} {stack : List Frame} {token : Token}

theorem distinctKeys_of_place (h : place value stack = some next) (hv : value.DistinctKeys)
    (hs : ∀ frame ∈ stack, frame.DistinctKeys) : next.DistinctKeys := by
  cases stack with
  | nil =>
    cases h
    exact hv
  | cons frame outer =>
    obtain ⟨hframe, houter⟩ := List.forall_mem_cons.mp hs
    cases frame with
    | array items =>
      cases h
      exact List.forall_mem_cons.mpr ⟨List.forall_mem_cons.mpr ⟨hv, hframe⟩, houter⟩
    | object members => cases h
    | member members key =>
      cases h
      exact List.forall_mem_cons.mpr ⟨hframe.putMember hv key, houter⟩

theorem distinctKeys_of_begin (h : begin stack token = some next) (ht : token.DistinctKeys)
    (hs : ∀ frame ∈ stack, frame.DistinctKeys) : next.DistinctKeys := by
  unfold begin at h
  split at h
  · exact distinctKeys_of_place h ht hs
  · exact distinctKeys_of_place h trivial hs
  · split at h <;> cases h
    exact List.forall_mem_cons.mpr ⟨nofun, hs⟩
  · split at h <;> cases h
    exact ⟨distinctKeys_object_iff.mpr ⟨List.nodup_nil, nofun⟩, hs⟩
  · cases h

theorem DistinctKeys.step (hr : reading.DistinctKeys) (ht : token.DistinctKeys)
    (h : reading.step token = some next) : next.DistinctKeys := by
  -- One case for each line of `Reading.step`.
  unfold Reading.step at h
  split at h
  · exact distinctKeys_of_place h (distinctKeys_array_iff.mpr nofun)
      (List.forall_mem_cons.mp hr).2
  · exact distinctKeys_of_begin h ht hr
  · exact distinctKeys_of_begin h ht hr
  · exact distinctKeys_of_place h (distinctKeys_object_iff.mpr ⟨List.nodup_nil, nofun⟩) hr.2
  · cases h
    exact hr
  · cases h
    exact hr
  · cases h
    exact List.forall_mem_cons.mpr hr
  · cases h
    exact hr
  · obtain ⟨hitems, houter⟩ := List.forall_mem_cons.mp hr
    exact distinctKeys_of_place h (distinctKeys_array_iff.mpr fun item hi =>
      hitems item (List.mem_reverse.mp hi)) houter
  · cases h
    exact (List.forall_mem_cons.mp hr)
  · obtain ⟨hmembers, houter⟩ := List.forall_mem_cons.mp hr
    exact distinctKeys_of_place h hmembers houter
  · cases h

end Reading

/-- No object in the document that a text holds has a key twice. -/
theorem distinctKeys_of_parse? {text : String} {document : Json} (h : parse? text = some document) :
    document.DistinctKeys := by
  obtain ⟨tokens, ht, h⟩ := Option.bind_eq_some_iff.mp h
  obtain ⟨reading, hr, h⟩ := Option.bind_eq_some_iff.mp h
  have hstart : Reading.DistinctKeys (.needValue []) := nofun
  have hd := foldlM_keeps Reading.DistinctKeys.step hstart (Token.distinctKeys_of_scan? ht) hr
  cases reading with
  | done value =>
    cases h
    exact hd
  | _ => cases h

end Json

end FieldMap
