import FieldMap.Proofs.Equality
import FieldMap.Proofs.Overlay
import FieldMap.Proofs.Tables

/-!
# Loading settings

Texts in both formats hold documents in which no object has a key twice
(`Format.distinctKeys_of_parse?`), and so a text's settings are the defaults with the members of its
document laid over them (`Settings.ofText_eq_ok_iff`). There are such settings if and only if each
member that is a setting has its type (`Settings.exists_laidOver_iff`). Members in another order
make the same settings (`Settings.LaidOver.exists_of_reordered`), and other members are passed over
(`Settings.DifferInUnknown.laidOver_iff`).
-/

namespace FieldMap

open Json

variable {members : Members} {key text : String} {format : Format}

/-- No object in the document that a text of either format holds has a key twice. -/
theorem Format.distinctKeys_of_parse? {document : Json} (h : format.parse? text = some document) :
    document.DistinctKeys := by
  cases format with
  | toml =>
    obtain ⟨value, hv, rfl⟩ := Option.map_eq_some_iff.mp h
    exact Toml.distinctKeys_of_parse? hv
  | json => exact Json.distinctKeys_of_parse? h

/-! ## Which documents are settings -/

/-- Each member that is a setting of derived fields has its type. -/
structure RestSettings.WellTyped (members : Members) : Prop where
  viewNameFormat : ∀ value, member? "view_name_format" members = some value →
    ∃ a, value = .string a
  urlFieldName : ∀ value, member? "url_field_name" members = some value → ∃ a, value = .string a
  hyperlinked : ∀ value, member? "hyperlinked" members = some value → ∃ a, value = .bool a

theorem RestSettings.exists_laidOver_iff {default : RestSettings} :
    (∃ s, LaidOver members default s) ↔ WellTyped members := by
  constructor
  · rintro ⟨s, hv, hu, hh⟩
    exact ⟨exists_tellsOr_iff.mp ⟨_, hv⟩, exists_tellsOr_iff.mp ⟨_, hu⟩,
      exists_tellsOr_iff.mp ⟨_, hh⟩⟩
  · rintro ⟨hv, hu, hh⟩
    obtain ⟨viewNameFormat, hv⟩ := exists_tellsOr_iff.mpr hv
    obtain ⟨urlFieldName, hu⟩ := exists_tellsOr_iff.mpr hu
    obtain ⟨hyperlinked, hh⟩ := exists_tellsOr_iff.mpr hh
    exact ⟨{ viewNameFormat, urlFieldName, hyperlinked }, hv, hu, hh⟩

namespace Settings

/-- Each member that is a setting has its type. -/
structure WellTyped (members : Members) : Prop where
  debug : ∀ value, member? "debug" members = some value → ∃ a, value = .bool a
  logLevel : ∀ value, member? "log_level" members = some value → ∃ a, value = .string a
  rest : ∀ value, member? "rest_framework" members = some value →
    ∃ inner, value = .object inner ∧ RestSettings.WellTyped inner
  extra : ∀ value, member? "extra" members = some value → ∃ a, value = .object a

theorem exists_laidOver_iff {default : Settings} :
    (∃ s, LaidOver members default s) ↔ WellTyped members := by
  have hinner (value : Json) : (∃ rest inner, value = .object inner ∧
      RestSettings.LaidOver inner default.rest rest) ↔
      ∃ inner, value = .object inner ∧ RestSettings.WellTyped inner := by
    rw [exists_comm]
    simp only [exists_and_left, RestSettings.exists_laidOver_iff]
  constructor
  · rintro ⟨s, hd, hl, hr, he⟩
    exact ⟨exists_tellsOr_iff.mp ⟨_, hd⟩, exists_tellsOr_iff.mp ⟨_, hl⟩,
      fun value hv => (hinner value).mp (exists_tellsOr_iff.mp ⟨_, hr⟩ value hv),
      exists_tellsOr_iff.mp ⟨_, he⟩⟩
  · rintro ⟨hd, hl, hr, he⟩
    obtain ⟨debug, hd⟩ := exists_tellsOr_iff.mpr hd
    obtain ⟨logLevel, hl⟩ := exists_tellsOr_iff.mpr hl
    obtain ⟨rest, hr⟩ := exists_tellsOr_iff.mpr fun value hv => (hinner value).mpr (hr value hv)
    obtain ⟨extra, he⟩ := exists_tellsOr_iff.mpr he
    exact ⟨{ debug, logLevel, rest, extra }, hd, hl, hr, he⟩

theorem ofText_of_parse? {document : Json} (hp : format.parse? text = some document) :
    ofText format text = (overDefaults document).mapError (.illTyped format) := by
  rw [ofText, hp]

/-- A text's settings are the defaults with the members of its document laid over them. -/
theorem ofText_eq_ok_iff {s : Settings} (hp : format.parse? text = some (.object members))
    (ha : ∀ items, member? "rest_framework" members ≠ some (.array items)) :
    ofText format text = .ok s ↔ LaidOver members {} s := by
  rw [ofText_of_parse? hp, ← overDefaults_eq_ok_iff (Format.distinctKeys_of_parse? hp) ha]
  cases h : overDefaults (.object members) with
  | error cause => exact iff_of_false nofun nofun
  | ok settings => rw [Except.mapError, Except.ok.injEq, Except.ok.injEq]

/-- A text that holds a document but no settings is refused for the type of a member. -/
theorem ofText_eq_illTyped {document : Json} (hp : format.parse? text = some document)
    (hn : ¬∃ s, ofText format text = .ok s) :
    ∃ cause, ofText format text = .error (.illTyped format cause) := by
  rw [ofText_of_parse? hp] at hn ⊢
  cases h : overDefaults document with
  | error cause => exact ⟨cause, rfl⟩
  | ok settings =>
    rw [h] at hn
    exact absurd ⟨settings, rfl⟩ hn

end Settings

/-! ## Order, and members that are not settings -/

theorem tells_string_of_reordered {a : String} {value value' : Json} (hr : Reordered value value')
    (h : value = .string a) : value' = .string a := by
  subst h
  cases hr
  rfl

theorem tells_bool_of_reordered {a : Bool} {value value' : Json} (hr : Reordered value value')
    (h : value = .bool a) : value' = .bool a := by
  subst h
  cases hr
  rfl

theorem RestSettings.LaidOver.of_reordered {others : Members} {default s : RestSettings}
    (hs : LaidOver members default s)
    (hr : ∀ key, Option.Rel Reordered (member? key members) (member? key others)) :
    LaidOver others default s where
  viewNameFormat := hs.viewNameFormat.of_rel (hr _) tells_string_of_reordered
  urlFieldName := hs.urlFieldName.of_rel (hr _) tells_string_of_reordered
  hyperlinked := hs.hyperlinked.of_rel (hr _) tells_bool_of_reordered

namespace Settings

/-- Settings are equal, but for the order of members in the further settings. -/
structure SameUpToOrder (s t : Settings) : Prop where
  debug : s.debug = t.debug
  logLevel : s.logLevel = t.logLevel
  rest : s.rest = t.rest
  extra : Reordered (.object s.extra) (.object t.extra)

/-- Members in another order make the same settings. -/
theorem LaidOver.exists_of_reordered {others : Members} {default s : Settings}
    (hs : LaidOver members default s) (hr : Reordered (.object members) (.object others)) :
    ∃ t, LaidOver others default t ∧ s.SameUpToOrder t := by
  obtain ⟨_, he, hr⟩ := hr.exists_eq_object
  cases he
  have hextra : ∃ extra, TellsOr (· = .object ·) default.extra extra (member? "extra" others) ∧
      Reordered (.object s.extra) (.object extra) := by
    refine hs.extra.exists_of_rel (S := fun a b => Reordered (.object a) (.object b)) (hr _)
      (.refl _) fun hv he => ?_
    subst he
    obtain ⟨extra, rfl, -⟩ := hv.exists_eq_object
    exact ⟨extra, rfl, hv⟩
  obtain ⟨extra, he, hsame⟩ := hextra
  refine ⟨{ s with extra }, ⟨?_, ?_, ?_, he⟩, rfl, rfl, rfl, hsame⟩
  · exact hs.debug.of_rel (hr _) tells_bool_of_reordered
  · exact hs.logLevel.of_rel (hr _) tells_string_of_reordered
  · refine hs.rest.of_rel (hr _) fun hv hinner => ?_
    obtain ⟨inner, rfl, hl⟩ := hinner
    obtain ⟨inner', rfl, hrel⟩ := hv.exists_eq_object
    exact ⟨inner', rfl, hl.of_reordered hrel⟩

/-- Documents that differ only in members that are not settings. -/
structure DifferInUnknown (members others : Members) : Prop where
  debug : member? "debug" members = member? "debug" others
  logLevel : member? "log_level" members = member? "log_level" others
  rest : member? "rest_framework" members = member? "rest_framework" others ∨
    ∃ inner inner', member? "rest_framework" members = some (.object inner) ∧
      member? "rest_framework" others = some (.object inner') ∧
      ∀ key ∈ RestSettings.shape.fields.map Prod.fst, member? key inner = member? key inner'
  extra : member? "extra" members = member? "extra" others

/-- Members that are not settings are passed over. -/
theorem DifferInUnknown.laidOver_iff {others : Members} {default s : Settings}
    (h : DifferInUnknown members others) :
    LaidOver members default s ↔ LaidOver others default s := by
  rw [Settings.laidOver_iff, Settings.laidOver_iff, h.debug, h.logLevel, h.extra]
  refine and_congr_right' (and_congr_right' (and_congr_left' ?_))
  obtain he | ⟨inner, inner', hi, hi', hk⟩ := h.rest
  · rw [he]
  · have hinner : RestSettings.LaidOver inner default.rest s.rest ↔
        RestSettings.LaidOver inner' default.rest s.rest := by
      rw [RestSettings.laidOver_iff, RestSettings.laidOver_iff, hk "view_name_format" (by decide),
        hk "url_field_name" (by decide), hk "hyperlinked" (by decide)]
    rw [hi, hi']
    simp only [TellsOr, object.injEq, exists_eq_left', hinner]

/-- Two texts both give settings, the same up to order, or neither does. -/
def SameOutcome (a b : Except LoadError Settings) : Prop :=
  (∃ s t, a = .ok s ∧ b = .ok t ∧ s.SameUpToOrder t) ∨ ∃ e e', a = .error e ∧ b = .error e'

theorem not_array_of_reordered {others : Members}
    (hr : Reordered (.object members) (.object others))
    (ha : ∀ items, member? key members ≠ some (.array items)) :
    ∀ items, member? key others ≠ some (.array items) := by
  intro items he
  obtain ⟨_, h, hrel⟩ := hr.symm.exists_eq_object
  cases h
  have hkey := hrel key
  rw [he] at hkey
  generalize member? key members = found at hkey ha
  cases hkey with
  | some h => cases h <;> exact ha _ rfl

theorem DifferInUnknown.not_array {others : Members} (h : DifferInUnknown members others)
    (ha : ∀ items, member? "rest_framework" members ≠ some (.array items)) :
    ∀ items, member? "rest_framework" others ≠ some (.array items) := by
  intro items he
  obtain hr | ⟨inner, inner', -, hi', -⟩ := h.rest
  · exact ha items (hr.trans he)
  · rw [hi'] at he
    cases he

/-- The settings of a text whose document is an object, and has no array for the settings of derived
fields. There are settings exactly if each member that is a setting has its type; then they are the
defaults with the document's members laid over them, and else the text is refused for the type of a
member. Neither the order of members nor members that are not settings change the outcome. -/
theorem ofText_byMembers (hp : format.parse? text = some (.object members))
    (ha : ∀ items, member? "rest_framework" members ≠ some (.array items)) :
    ((∃ s, ofText format text = .ok s) ↔ WellTyped members) ∧
    (∀ s, ofText format text = .ok s ↔ LaidOver members {} s) ∧
    (¬WellTyped members → ∃ cause, ofText format text = .error (.illTyped format cause) ∧
      (LoadError.illTyped format cause).toError = .configuration
        ("Failed to deserialize settings from " ++ format.name ++ ": " ++ cause.message)) ∧
    (∀ format' text' others, Format.parse? format' text' = some (.object others) →
      Reordered (.object members) (.object others) →
      SameOutcome (ofText format text) (ofText format' text')) ∧
    ∀ format' text' others, Format.parse? format' text' = some (.object others) →
      DifferInUnknown members others →
      ∀ s, ofText format text = .ok s ↔ ofText format' text' = .ok s := by
  have hok (s : Settings) := ofText_eq_ok_iff (s := s) hp ha
  have hex : (∃ s, ofText format text = .ok s) ↔ WellTyped members := by
    rw [exists_congr hok, exists_laidOver_iff]
  refine ⟨hex, hok, fun hn => ?_, fun format' text' others hp' hr => ?_,
    fun format' text' others hp' hd s => ?_⟩
  · obtain ⟨cause, hc⟩ := ofText_eq_illTyped hp (mt hex.mp hn)
    exact ⟨cause, hc, rfl⟩
  · have hok' (t : Settings) := ofText_eq_ok_iff (s := t) hp' (not_array_of_reordered hr ha)
    cases hs : ofText format text with
    | ok s =>
      obtain ⟨t, ht, hsame⟩ := ((hok s).mp hs).exists_of_reordered hr
      exact .inl ⟨s, t, rfl, (hok' t).mpr ht, hsame⟩
    | error e =>
      cases ht : ofText format' text' with
      | error e' => exact .inr ⟨e, e', rfl, rfl⟩
      | ok t =>
        obtain ⟨s, hs', -⟩ := ((hok' t).mp ht).exists_of_reordered hr.symm
        rw [(hok s).mpr hs'] at hs
        cases hs
  · rw [hok, hd.laidOver_iff, ofText_eq_ok_iff hp' (hd.not_array ha)]

/-- A text that changes two settings, one of them in a section of its own. -/
theorem ofText_byMembers_section :
    Format.parse? .toml "debug = false\n[rest_framework]\nhyperlinked = true" =
      some (.object [("debug", .bool false),
        ("rest_framework", .object [("hyperlinked", .bool true)])]) ∧
    ofText .toml "debug = false\n[rest_framework]\nhyperlinked = true" =
      .ok { debug := false, rest := { hyperlinked := true } } := by
  have hp : Format.parse? .toml "debug = false\n[rest_framework]\nhyperlinked = true" =
      some (.object [("debug", .bool false),
        ("rest_framework", .object [("hyperlinked", .bool true)])]) := by decide +kernel
  obtain ⟨-, hok, -⟩ := ofText_byMembers hp fun items h => by cases h
  exact ⟨hp, (hok _).mpr ⟨rfl, rfl, ⟨_, rfl, rfl, rfl, rfl⟩, rfl⟩⟩

end Settings

end FieldMap
