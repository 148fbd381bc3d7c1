import FieldMap.Proofs.Building

/-!
# Names of views

A format for view names consists of literal texts and of places for the application's label and the
model's name (`ViewNamePart`). The places are filled one kind after the other, which is the same as
filling them all at once as long as neither the literals nor the label have braces
(`ModelRef.viewName_format`): replacing passes over a text in which no place begins
(`Text.replaceFrom_append`) and puts the replacement in each place (`Text.replaceFrom_pattern`).
Links to a model name its view in the format of the settings that their builder was made from, in
relations as in the link of an object to itself (`FieldBuilder.Builds.namesViews`).
-/

namespace FieldMap

/-! ## Replacing -/

namespace Text

variable {pattern replacement text rest : List Char}

theorem replaceFrom_skip (skipped rest : List Char) :
    replaceFrom pattern replacement skipped.length (skipped ++ rest) =
      replaceFrom pattern replacement 0 rest := by
  induction skipped with
  | nil => rfl
  | cons c skipped ih => exact ih

/-- An occurrence of the pattern is replaced. -/
theorem replaceFrom_pattern (h : pattern ≠ []) :
    replaceFrom pattern replacement 0 (pattern ++ rest) =
      replacement ++ replaceFrom pattern replacement 0 rest := by
  obtain ⟨c, tail, rfl⟩ := List.exists_cons_of_ne_nil h
  have hp : (c :: tail).isPrefixOf (c :: (tail ++ rest)) = true :=
    List.isPrefixOf_iff_prefix.mpr (List.prefix_append (c :: tail) rest)
  rw [List.cons_append, replaceFrom, if_pos hp, List.length_cons, Nat.add_sub_cancel,
    replaceFrom_skip]

/-- A text in which no occurrence of the pattern begins is kept. -/
theorem replaceFrom_append
    (h : ∀ before c after, text = before ++ c :: after → ¬pattern <+: c :: (after ++ rest)) :
    replaceFrom pattern replacement 0 (text ++ rest) =
      text ++ replaceFrom pattern replacement 0 rest := by
  induction text with
  | nil => rfl
  | cons c text ih =>
    have hc : ¬pattern.isPrefixOf (c :: (text ++ rest)) = true :=
      mt List.isPrefixOf_iff_prefix.mp (h [] c text rfl)
    rw [List.cons_append, replaceFrom, if_neg hc, ih fun before d after he =>
      h (c :: before) d after (congrArg (c :: ·) he), List.cons_append]

/-- A text without the pattern's first character is kept. -/
theorem replaceFrom_append_of_notMem {first : Char} {tail : List Char} (h : first ∉ text) :
    replaceFrom (first :: tail) replacement 0 (text ++ rest) =
      text ++ replaceFrom (first :: tail) replacement 0 rest := by
  refine replaceFrom_append fun before c after he hp => h ?_
  rw [he, (List.cons_prefix_cons.mp hp).1]
  exact List.mem_append_right _ List.mem_cons_self

/-- A text that begins as the pattern does but goes on in another way is kept. -/
theorem replaceFrom_append_of_ne {first second other : Char} {tail : List Char}
    (hne : second ≠ other) (h : first ∉ other :: text) :
    replaceFrom (first :: second :: tail) replacement 0 (first :: other :: text ++ rest) =
      first :: other :: text ++ replaceFrom (first :: second :: tail) replacement 0 rest := by
  refine replaceFrom_append fun before c after he hp => ?_
  obtain ⟨rfl, hrest⟩ := List.cons_prefix_cons.mp hp
  cases before with
  | nil =>
    cases he
    exact hne (List.cons_prefix_cons.mp hrest).1
  | cons d before =>
    have he := List.tail_eq_of_cons_eq he
    exact h (he ▸ List.mem_append_right before List.mem_cons_self)

/-- What replacing does to each piece of a text, it does to the text. -/
theorem replaceFrom_flatMap {α : Type} {pieces : List α} {f g : α → List Char}
    (h : ∀ piece ∈ pieces, ∀ rest, replaceFrom pattern replacement 0 (f piece ++ rest) =
      g piece ++ replaceFrom pattern replacement 0 rest) :
    replaceFrom pattern replacement 0 (pieces.flatMap f) = pieces.flatMap g := by
  induction pieces with
  | nil => rfl
  | cons piece pieces ih =>
    rw [List.flatMap_cons, List.flatMap_cons, h piece List.mem_cons_self,
      ih fun other ho => h other (List.mem_cons_of_mem _ ho)]

/-- Whether a text has no braces. -/
def Unbraced (s : String) : Prop :=
  '\x7b' ∉ s.toList ∧ '\x7d' ∉ s.toList

instance (s : String) : Decidable (Unbraced s) :=
  inferInstanceAs (Decidable (_ ∧ _))

end Text

/-! ## Formats -/

/-- A part of a format for view names. -/
inductive ViewNamePart where
  | literal (text : String) (unbraced : Text.Unbraced text)
  /-- The place for the application's label. -/
  | appLabel
  /-- The place for the model's name. -/
  | modelName

namespace ViewNamePart

/-- A part as it stands in a format. -/
def source : ViewNamePart → String
  | literal text _ => text
  | appLabel => "{app_label}"
  | modelName => "{model_name}"

/-- A part with a model's label or name in its place; the name is in lower case. -/
def fill (m : ModelRef) : ViewNamePart → String
  | literal text _ => text
  | appLabel => m.appLabel
  | modelName => Text.lowercase m.objectName

/-- The format that consists of parts. -/
def format (parts : List ViewNamePart) : String :=
  String.join (parts.map source)

/-- The name that a format of parts gives the view of a model. -/
def render (m : ModelRef) (parts : List ViewNamePart) : String :=
  String.join (parts.map (fill m))

/-- A part of which only the application's label has been filled in. -/
def fillLabel (m : ModelRef) : ViewNamePart → String
  | literal text _ => text
  | appLabel => m.appLabel
  | modelName => "{model_name}"

theorem toList_join (parts : List ViewNamePart) (text : ViewNamePart → String) :
    (String.join (parts.map text)).toList = parts.flatMap fun part => (text part).toList := by
  rw [String.toList_join, List.flatMap_map]

end ViewNamePart

open ViewNamePart in
/-- Filling in the label and then the name fills each part of a format with its own. -/
theorem ModelRef.viewName_format {m : ModelRef} (h : Text.Unbraced m.appLabel)
    (parts : List ViewNamePart) : m.viewName (format parts) = render m parts := by
  have hlabel : Text.replaceAll "{app_label}" m.appLabel (format parts) =
      String.join (parts.map (fillLabel m)) := by
    rw [← String.toList_inj, Text.replaceAll, String.toList_ofList, format, toList_join,
      toList_join]
    refine Text.replaceFrom_flatMap fun part _ rest => ?_
    cases part with
    | literal text unbraced => exact Text.replaceFrom_append_of_notMem unbraced.1
    | appLabel => exact Text.replaceFrom_pattern (by decide)
    | modelName =>
      have hplace : "{model_name}".toList = '\x7b' :: 'm' :: "odel_name\x7d".toList := by decide
      have hpattern : "{app_label}".toList = '\x7b' :: 'a' :: "pp_label\x7d".toList := by decide
      rw [source, fillLabel, hplace, hpattern]
      exact Text.replaceFrom_append_of_ne (by decide) (by decide)
  rw [viewName, hlabel, ← String.toList_inj, Text.replaceAll, String.toList_ofList, render,
    toList_join, toList_join]
  refine Text.replaceFrom_flatMap fun part _ rest => ?_
  cases part with
  | literal text unbraced => exact Text.replaceFrom_append_of_notMem unbraced.1
  | appLabel => exact Text.replaceFrom_append_of_notMem h.1
  | modelName => exact Text.replaceFrom_pattern (by decide)

namespace FieldBuilder

/-! ## Links -/

/-- The builders that are made from settings, by changes to their classes. -/
inductive MadeFrom (s : RestSettings) : FieldBuilder → Prop
  | ofSettings : MadeFrom s (ofSettings s)
  | withRelatedField {b : FieldBuilder} (h : MadeFrom s b) (c : SerializerClass) :
      MadeFrom s (b.withRelatedField c)
  | withMapping {b : FieldBuilder} (h : MadeFrom s b) (c : FieldClass) (t : SerializerClass) :
      MadeFrom s (b.withMapping c t)

variable {s : RestSettings} {b : FieldBuilder} {m : Model} {name : String} {field : SerializerField}

/-- Changes of classes keep the format of view names. -/
theorem MadeFrom.viewNameFormat_eq (h : b.MadeFrom s) : b.viewNameFormat = s.viewNameFormat := by
  induction h with
  | ofSettings => rfl
  | withRelatedField _ _ ih => exact ih
  | withMapping _ _ _ ih => exact ih

/-- A flat relation to a model whose view has the name `view`. -/
structure IsFlatRelation (b : FieldBuilder) (view : String) (field : SerializerField) : Prop where
  serializerClass : field.serializerClass = b.relatedField
  viewName_of_isSubclass : isSubclass b.relatedField .hyperlinkedRelated = true →
    field.arguments.viewName = some view
  viewName_of_not_isSubclass : isSubclass b.relatedField .hyperlinkedRelated = false →
    field.arguments.viewName = none

theorem isFlatRelation_buildRelationalField (b : FieldBuilder) (name : String) (r : Relation) :
    b.IsFlatRelation (r.related.viewName b.viewNameFormat) (b.buildRelationalField name r) := by
  refine ⟨rfl, fun h => ?_, fun h => ?_⟩
  · rw [buildRelationalField, isHyperlinked, h]
    rfl
  · rw [buildRelationalField, isHyperlinked, h]
    rfl

theorem IsFlatRelation.makeReadOnly {view : String} (h : b.IsFlatRelation view field) :
    b.IsFlatRelation view { field with arguments := field.arguments.makeReadOnly } := by
  refine ⟨h.serializerClass, fun hs => ?_, fun hs => ?_⟩
  · rw [Arguments.makeReadOnly_eq]
    exact h.viewName_of_isSubclass hs
  · rw [Arguments.makeReadOnly_eq]
    exact h.viewName_of_not_isSubclass hs

/-- What the field of a name in a model says of the view of `target`: a flat relation to that model
names it, and so does the link to the object itself if the model is its own. -/
structure NamesView (b : FieldBuilder) (target : ModelRef) (view : String) (m : Model)
    (name : String) (field : SerializerField) : Prop where
  relation : ∀ f r, resolve? m name = some f → Relation.forward? f = some r →
    r.related = target → field.nested = none → b.IsFlatRelation view field
  link : resolve? m name = none → m.ref = target → field.arguments.viewName = some view

theorem Builds.namesView {depth : Nat} (h : b.Builds m depth name field) (target : ModelRef) :
    b.NamesView target (target.viewName b.viewNameFormat) m name field := by
  refine ⟨fun f r hf hr ht hn => ?_, fun hf ht => ?_⟩
  · subst ht
    cases h with
    | nested => cases hn
    | related hf' hr' =>
      cases hf.symm.trans hf'
      cases hr.symm.trans hr'
      exact b.isFlatRelation_buildRelationalField name r
    | fixed hf' hr' | choice hf' hr' | bounded hf' hr' =>
      cases hf.symm.trans hf'
      cases hr.symm.trans hr'
    | link hf' => cases hf.symm.trans hf'
  · subst ht
    cases h with
    | link => rfl
    | nested hf' | related hf' | fixed hf' | choice hf' | bounded hf' => cases hf.symm.trans hf'

theorem NamesView.makeReadOnly {target : ModelRef} {view : String}
    (h : b.NamesView target view m name field) :
    b.NamesView target view m name { field with arguments := field.arguments.makeReadOnly } := by
  refine ⟨fun f r hf hr ht hn => (h.relation f r hf hr ht hn).makeReadOnly, fun hf ht => ?_⟩
  rw [Arguments.makeReadOnly_eq]
  exact h.link hf ht

/-- In the format that settings give as parts, the view of a model whose application's label has no
braces is the parts with the label and the name in their places. A builder made from the settings
gives this name to each flat relation to the model if its relations are links, and no name
otherwise, and it gives the name to the link of the model's objects to themselves. So both name one
view, and the name in the default format, with which their arguments begin, never stands for
another one. -/
theorem namesView_render {s : RestSettings} {parts : List ViewNamePart}
    (hs : s.viewNameFormat = ViewNamePart.format parts) (hb : b.MadeFrom s) {target : ModelRef}
    (ht : Text.Unbraced target.appLabel) :
    let view := ViewNamePart.render target parts
    target.viewName (ViewNamePart.format parts) = view ∧
    (∀ name r, r.related = target → b.IsFlatRelation view (b.buildRelationalField name r)) ∧
    (b.buildUrlField target).arguments.viewName = some view ∧
    (∀ name r, r.related = target → isSubclass b.relatedField .hyperlinkedRelated = true →
      (b.buildRelationalField name r).arguments.viewName =
        (b.buildUrlField target).arguments.viewName) ∧
    (view ≠ target.detailViewName →
      (∀ name r, r.related = target →
        (b.buildRelationalField name r).arguments.viewName ≠ some target.detailViewName) ∧
      (b.buildUrlField target).arguments.viewName ≠ some target.detailViewName) ∧
    (∀ m depth name field, b.buildField name m depth = .ok field →
      b.NamesView target view m name field) ∧
    ∀ m selection built, b.buildFields m selection = .ok built → ∀ name field,
      (name, field) ∈ built → b.NamesView target view m name field := by
  intro view
  have hview : target.viewName b.viewNameFormat = view := by
    rw [hb.viewNameFormat_eq, hs, ModelRef.viewName_format ht]
  have hrelation (name : String) (r : Relation) (hr : r.related = target) :
      b.IsFlatRelation view (b.buildRelationalField name r) := by
    rw [← hview, ← hr]
    exact b.isFlatRelation_buildRelationalField name r
  have hlink : (b.buildUrlField target).arguments.viewName = some view := congrArg some hview
  refine ⟨ModelRef.viewName_format ht parts, hrelation, hlink, fun name r hr hsub => ?_,
    fun hne => ⟨fun name r hr => ?_, ?_⟩, fun m depth name field h => ?_,
    fun m selection built h => ?_⟩
  · rw [(hrelation name r hr).viewName_of_isSubclass hsub, hlink]
  · cases hsub : isSubclass b.relatedField .hyperlinkedRelated with
    | true =>
      rw [(hrelation name r hr).viewName_of_isSubclass hsub]
      exact fun he => hne (Option.some.inj he)
    | false =>
      rw [(hrelation name r hr).viewName_of_not_isSubclass hsub]
      exact nofun
  · rw [hlink]
    exact fun he => hne (Option.some.inj he)
  · rw [← hview]
    exact (buildField_eq_ok_iff.mp h).namesView target
  · rw [← hview]
    exact forall_mem_buildFields h (fun name field hb => hb.namesView target)
      fun name field h => h.makeReadOnly

/-- Reporters are linked to by application and name, from other objects as from themselves. -/
theorem namesView_render_reporter :
    let s : RestSettings :=
      { viewNameFormat := "{app_label}:{model_name}-detail", hyperlinked := true }
    let parts : List ViewNamePart := [.appLabel, .literal ":" (by decide), .modelName,
      .literal "-detail" (by decide)]
    let reporter : ModelRef := ⟨"people", "Reporter"⟩
    s.viewNameFormat = ViewNamePart.format parts ∧ (ofSettings s).MadeFrom s ∧
    Text.Unbraced reporter.appLabel ∧
    ((ofSettings s).buildRelationalField "author" (.reverseOf reporter false)).arguments.viewName =
      some "people:reporter-detail" ∧
    ((ofSettings s).buildUrlField reporter).arguments.viewName = some "people:reporter-detail" := by
  intro s parts reporter
  have hs : s.viewNameFormat = ViewNamePart.format parts := by decide
  have hr : Text.Unbraced reporter.appLabel := by decide
  have hview : ViewNamePart.render reporter parts = "people:reporter-detail" := by decide
  obtain ⟨-, hrelation, hlink, -⟩ := namesView_render hs .ofSettings hr
  rw [hview] at hrelation hlink
  exact ⟨hs, .ofSettings, hr, (hrelation _ _ rfl).viewName_of_isSubclass (by decide), hlink⟩

end FieldBuilder

end FieldMap
