import FieldMap.Proofs.Merge
import FieldMap.Proofs.Records
import FieldMap.Settings.Load

/-!
# Settings laid over defaults

Settings are read from the document that lays a given one over the defaults. Member by member this
means that a setting is what the given document tells under its key, or else the default:
`Settings.LaidOver` says so of all settings, and `RestSettings.LaidOver` of those of derived fields,
which are laid over their defaults one by one. The draft that reading fills (`Draft.FilledFrom`) is
compared with it key by key: under a key that has a default there is always a member after merging
(`tellsOr_merged`), and a default that is no object gives way to what is laid over it
(`tellsOr_merged_scalar`). `Settings.overDefaults_eq_ok_iff` joins this.
-/

namespace FieldMap

open Json

variable {members : Members} {key : String}

/-- What a key leads to in a document laid over one that has a default under the key. -/
theorem tellsOr_merged {α β : Type} {tells : Json → α → Prop} {tells' : Json → β → Prop}
    {start a : α} {default b : β} {old : Json} {found : Option Json}
    (hd : tells old a ↔ b = default)
    (hv : ∀ value, found = some value → (tells (merge old value) a ↔ tells' value b)) :
    TellsOr tells start a (mergeValue? (some old) found) ↔ TellsOr tells' default b found := by
  cases found with
  | none => exact hd
  | some value => exact hv value rfl

/-- A scalar default gives way to whatever is laid over it. -/
theorem tellsOr_merged_scalar {α : Type} {encode : α → Json} {start default a : α}
    {found : Option Json} (hs : (encode default).isObject = false)
    (hinj : Function.Injective encode) :
    TellsOr (· = encode ·) start a (mergeValue? (some (encode default)) found) ↔
      TellsOr (· = encode ·) default a found :=
  tellsOr_merged (hinj.eq_iff.trans eq_comm) fun _ _ => by rw [merge_of_not_isObject (.inl hs)]

/-! ## The settings of derived fields -/

namespace RestSettings

/-- Settings are others with an object's members laid over them. -/
structure LaidOver (members : Members) (default s : RestSettings) : Prop where
  viewNameFormat : TellsOr (· = .string ·) default.viewNameFormat s.viewNameFormat
    (member? "view_name_format" members)
  urlFieldName : TellsOr (· = .string ·) default.urlFieldName s.urlFieldName
    (member? "url_field_name" members)
  hyperlinked : TellsOr (· = .bool ·) default.hyperlinked s.hyperlinked
    (member? "hyperlinked" members)

variable {s t : RestSettings}

theorem laidOver_iff {default : RestSettings} : LaidOver members default s ↔
    TellsOr (· = .string ·) default.viewNameFormat s.viewNameFormat
      (member? "view_name_format" members) ∧
    TellsOr (· = .string ·) default.urlFieldName s.urlFieldName
      (member? "url_field_name" members) ∧
    TellsOr (· = .bool ·) default.hyperlinked s.hyperlinked (member? "hyperlinked" members) :=
  ⟨fun h => ⟨h.viewNameFormat, h.urlFieldName, h.hyperlinked⟩, fun ⟨hv, hu, hh⟩ => ⟨hv, hu, hh⟩⟩

theorem LaidOver.unique {default : RestSettings} (hs : LaidOver members default s)
    (ht : LaidOver members default t) : s = t := by
  have hv := hs.viewNameFormat.unique (fun _ h h' => string.inj (h.symm.trans h')) ht.viewNameFormat
  have hu := hs.urlFieldName.unique (fun _ h h' => string.inj (h.symm.trans h')) ht.urlFieldName
  have hh := hs.hyperlinked.unique (fun _ h h' => bool.inj (h.symm.trans h')) ht.hyperlinked
  cases s
  cases t
  exact congr (congr (congrArg RestSettings.mk hv) hu) hh

/-- What one member does to the settings. -/
theorem readMember_eq_ok_iff {value : Json} : shape.readMember s key value = .ok t ↔
    (key = "view_name_format" ∧ ∃ a, value = .string a ∧ t = { s with viewNameFormat := a }) ∨
    (key = "url_field_name" ∧ ∃ a, value = .string a ∧ t = { s with urlFieldName := a }) ∨
    (key = "hyperlinked" ∧ ∃ a, value = .bool a ∧ t = { s with hyperlinked := a }) ∨
    (key ∉ shape.fields.map Prod.fst ∧ t = s) := by
  by_cases hv : key = "view_name_format"
  · subst hv
    rw [readMember_of_lookup rfl, decode_eq_ok_iff @asString_eq_ok_iff]
    simp [shape]
  by_cases hu : key = "url_field_name"
  · subst hu
    rw [readMember_of_lookup rfl, decode_eq_ok_iff @asString_eq_ok_iff]
    simp [shape]
  by_cases hh : key = "hyperlinked"
  · subst hh
    rw [readMember_of_lookup rfl, decode_eq_ok_iff @asBool_eq_ok_iff]
    simp [shape]
  · have hk : key ∉ shape.fields.map Prod.fst := by simp [shape, hv, hu, hh]
    simp [readMember_of_unknown hk, hk, hv, hu, hh, eq_comm]

/-- Each member is read into the place of its own key. -/
theorem places :
    shape.Places "view_name_format" viewNameFormat (· = .string ·) ∧
    shape.Places "url_field_name" urlFieldName (· = .string ·) ∧
    shape.Places "hyperlinked" hyperlinked (· = .bool ·) := by
  refine ⟨⟨fun h => ?_, fun hne h => ?_⟩, ⟨fun h => ?_, fun hne h => ?_⟩,
    ⟨fun h => ?_, fun hne h => ?_⟩⟩
  all_goals
    obtain ⟨hk, a, ha, rfl⟩ | ⟨hk, a, ha, rfl⟩ | ⟨hk, a, ha, rfl⟩ | ⟨hk, rfl⟩ :=
      readMember_eq_ok_iff.mp h
    all_goals first | exact ha | rfl | exact absurd hk (by decide) | exact absurd hk hne

theorem readMembers_eq_ok_iff (hn : (members.map Prod.fst).Nodup) :
    shape.readMembers s members = .ok t ↔ LaidOver members s t := by
  refine readMembers_eq_ok_iff_of (fun h s' => ?_) (fun h => ?_) LaidOver.unique
    fun h key value hm => ?_
  · obtain ⟨rfl, a, rfl, -⟩ | ⟨rfl, a, rfl, -⟩ | ⟨rfl, a, rfl, -⟩ | ⟨hk, -⟩ :=
      readMember_eq_ok_iff.mp h
    · exact ⟨_, readMember_eq_ok_iff.mpr (.inl ⟨rfl, a, rfl, rfl⟩)⟩
    · exact ⟨_, readMember_eq_ok_iff.mpr (.inr (.inl ⟨rfl, a, rfl, rfl⟩))⟩
    · exact ⟨_, readMember_eq_ok_iff.mpr (.inr (.inr (.inl ⟨rfl, a, rfl, rfl⟩)))⟩
    · exact ⟨_, readMember_of_unknown hk s' _⟩
  · obtain ⟨hv, hu, hh⟩ := places
    exact ⟨hv.of_readMembers hn h, hu.of_readMembers hn h, hh.of_readMembers hn h⟩
  · -- A member under a known key is the one that the setting has been taken from.
    obtain ⟨hv, hu, hh⟩ := h
    have hk := (member?_eq_some_iff hn).mpr hm
    by_cases hkv : key = "view_name_format"
    · subst hkv
      rw [hk] at hv
      exact ⟨_, readMember_eq_ok_iff.mpr (.inl ⟨rfl, _, hv, rfl⟩)⟩
    by_cases hku : key = "url_field_name"
    · subst hku
      rw [hk] at hu
      exact ⟨_, readMember_eq_ok_iff.mpr (.inr (.inl ⟨rfl, _, hu, rfl⟩))⟩
    by_cases hkh : key = "hyperlinked"
    · subst hkh
      rw [hk] at hh
      exact ⟨_, readMember_eq_ok_iff.mpr (.inr (.inr (.inl ⟨rfl, _, hh, rfl⟩)))⟩
    · exact ⟨s, readMember_of_unknown (by simp [shape, hkv, hku, hkh]) s value⟩

/-- The members of the settings as a document. -/
def entries (s : RestSettings) : Members :=
  [("view_name_format", .string s.viewNameFormat), ("url_field_name", .string s.urlFieldName),
    ("hyperlinked", .bool s.hyperlinked)]

theorem nodup_entries (s : RestSettings) : (s.entries.map Prod.fst).Nodup := by
  show List.Nodup ["view_name_format", "url_field_name", "hyperlinked"]
  decide

/-- What is read where an object is laid over settings as a document. -/
theorem ofJson_merge_eq_ok_iff {default : RestSettings} (h : DistinctKeys (.object members)) :
    ofJson (merge default.toJson (.object members)) = .ok s ↔ LaidOver members default s := by
  have hd := default.nodup_entries
  show ofJson (merge (.object default.entries) (.object members)) = .ok s ↔ _
  rw [merge, ofJson, RecordShape.read, readMembers_eq_ok_iff (nodup_mergeMembers hd members),
    laidOver_iff, laidOver_iff]
  simp only [member?_mergeMembers hd h.nodup]
  exact and_congr (tellsOr_merged_scalar rfl fun _ _ => string.inj)
    (and_congr (tellsOr_merged_scalar rfl fun _ _ => string.inj)
      (tellsOr_merged_scalar rfl fun _ _ => bool.inj))

end RestSettings

/-! ## All settings -/

namespace Settings

/-- Settings are others with an object's members laid over them. -/
structure LaidOver (members : Members) (default s : Settings) : Prop where
  debug : TellsOr (· = .bool ·) default.debug s.debug (member? "debug" members)
  logLevel : TellsOr (· = .string ·) default.logLevel s.logLevel (member? "log_level" members)
  rest : TellsOr (fun value rest => ∃ inner, value = .object inner ∧
    RestSettings.LaidOver inner default.rest rest) default.rest s.rest
    (member? "rest_framework" members)
  extra : TellsOr (· = .object ·) default.extra s.extra (member? "extra" members)

variable {s : Settings}

theorem laidOver_iff {default : Settings} : LaidOver members default s ↔
    TellsOr (· = .bool ·) default.debug s.debug (member? "debug" members) ∧
    TellsOr (· = .string ·) default.logLevel s.logLevel (member? "log_level" members) ∧
    TellsOr (fun value rest => ∃ inner, value = .object inner ∧
      RestSettings.LaidOver inner default.rest rest) default.rest s.rest
      (member? "rest_framework" members) ∧
    TellsOr (· = .object ·) default.extra s.extra (member? "extra" members) :=
  ⟨fun h => ⟨h.debug, h.logLevel, h.rest, h.extra⟩, fun ⟨hd, hl, hr, he⟩ => ⟨hd, hl, hr, he⟩⟩

namespace Draft

variable {d t : Draft}

/-- What one member does to the draft. -/
theorem readMember_eq_ok_iff {value : Json} : shape.readMember d key value = .ok t ↔
    (key = "debug" ∧ ∃ a, value = .bool a ∧ t = { d with debug := some a }) ∨
    (key = "log_level" ∧ ∃ a, value = .string a ∧ t = { d with logLevel := some a }) ∨
    (key = "rest_framework" ∧ ∃ a, RestSettings.ofJson value = .ok a ∧
      t = { d with rest := some a }) ∨
    (key = "extra" ∧ ∃ a, value = .object a ∧ t = { d with extra := some a }) ∨
    (key ∉ shape.fields.map Prod.fst ∧ t = d) := by
  by_cases hd : key = "debug"
  · subst hd
    rw [readMember_of_lookup rfl, decode_eq_ok_iff @asBool_eq_ok_iff]
    simp [shape]
  by_cases hl : key = "log_level"
  · subst hl
    rw [readMember_of_lookup rfl, decode_eq_ok_iff @asString_eq_ok_iff]
    simp [shape]
  by_cases hr : key = "rest_framework"
  · subst hr
    rw [readMember_of_lookup rfl, decode_eq_ok_iff Iff.rfl]
    simp [shape]
  by_cases he : key = "extra"
  · subst he
    rw [readMember_of_lookup rfl, decode_eq_ok_iff @asMembers_eq_ok_iff]
    simp [shape]
  · have hk : key ∉ shape.fields.map Prod.fst := by simp [shape, hd, hl, hr, he]
    simp [readMember_of_unknown hk, hk, hd, hl, hr, he, eq_comm]

/-- A place is filled with what a member tells. -/
def Fills {α : Type} (tells : Json → α → Prop) (value : Json) (place : Option α) : Prop :=
  ∃ a, tells value a ∧ place = some a

theorem Fills.unique {α : Type} {tells : Json → α → Prop} {p q : Option α}
    (hu : ∀ {value a b}, tells value a → tells value b → a = b) (value : Json)
    (hp : Fills tells value p) (hq : Fills tells value q) : p = q := by
  obtain ⟨a, ha, rfl⟩ := hp
  obtain ⟨b, hb, rfl⟩ := hq
  rw [hu ha hb]

/-- Where a document is laid over a default something is told, and what it tells is filled in. -/
theorem tellsOr_fills_merged {α : Type} {tells : Json → α → Prop} {start : Option α} {a : α}
    {old : Json} {found : Option Json} :
    TellsOr (Fills tells) start (some a) (mergeValue? (some old) found) ↔
      TellsOr tells a a (mergeValue? (some old) found) := by
  cases found <;> simp [TellsOr, mergeValue?, Fills]

/-- Each member is read into the place of its own key. -/
theorem places :
    shape.Places "debug" debug (Fills (· = .bool ·)) ∧
    shape.Places "log_level" logLevel (Fills (· = .string ·)) ∧
    shape.Places "rest_framework" rest (Fills (RestSettings.ofJson · = .ok ·)) ∧
    shape.Places "extra" extra (Fills (· = .object ·)) := by
  refine ⟨⟨fun h => ?_, fun hne h => ?_⟩, ⟨fun h => ?_, fun hne h => ?_⟩,
    ⟨fun h => ?_, fun hne h => ?_⟩, ⟨fun h => ?_, fun hne h => ?_⟩⟩
  all_goals
    obtain ⟨hk, a, ha, rfl⟩ | ⟨hk, a, ha, rfl⟩ | ⟨hk, a, ha, rfl⟩ | ⟨hk, a, ha, rfl⟩ | ⟨hk, rfl⟩ :=
      readMember_eq_ok_iff.mp h
    all_goals
      first | exact ⟨a, ha, rfl⟩ | rfl | exact absurd hk (by decide) | exact absurd hk hne

/-- A draft is another one with members read into it. -/
structure FilledFrom (members : Members) (d t : Draft) : Prop where
  debug : TellsOr (Fills (· = .bool ·)) d.debug t.debug (member? "debug" members)
  logLevel : TellsOr (Fills (· = .string ·)) d.logLevel t.logLevel (member? "log_level" members)
  rest : TellsOr (Fills (RestSettings.ofJson · = .ok ·)) d.rest t.rest
    (member? "rest_framework" members)
  extra : TellsOr (Fills (· = .object ·)) d.extra t.extra (member? "extra" members)

theorem filledFrom_iff : FilledFrom members d t ↔
    TellsOr (Fills (· = .bool ·)) d.debug t.debug (member? "debug" members) ∧
    TellsOr (Fills (· = .string ·)) d.logLevel t.logLevel (member? "log_level" members) ∧
    TellsOr (Fills (RestSettings.ofJson · = .ok ·)) d.rest t.rest
      (member? "rest_framework" members) ∧
    TellsOr (Fills (· = .object ·)) d.extra t.extra (member? "extra" members) :=
  ⟨fun h => ⟨h.debug, h.logLevel, h.rest, h.extra⟩, fun ⟨hd, hl, hr, he⟩ => ⟨hd, hl, hr, he⟩⟩

theorem FilledFrom.unique {t' : Draft} (h : FilledFrom members d t) (h' : FilledFrom members d t') :
    t = t' := by
  have hd := h.debug.unique (Fills.unique fun e e' => bool.inj (e.symm.trans e')) h'.debug
  have hl := h.logLevel.unique (Fills.unique fun e e' => string.inj (e.symm.trans e')) h'.logLevel
  have hr := h.rest.unique (Fills.unique fun e e' => Except.ok.inj (e.symm.trans e')) h'.rest
  have he := h.extra.unique (Fills.unique fun e e' => object.inj (e.symm.trans e')) h'.extra
  cases t
  cases t'
  exact congr (congr (congr (congrArg Draft.mk hd) hl) hr) he

theorem readMembers_eq_ok_iff (hn : (members.map Prod.fst).Nodup) :
    shape.readMembers d members = .ok t ↔ FilledFrom members d t := by
  refine readMembers_eq_ok_iff_of (fun h d' => ?_) (fun h => ?_) FilledFrom.unique
    fun h key value hm => ?_
  · obtain ⟨rfl, a, ha, -⟩ | ⟨rfl, a, ha, -⟩ | ⟨rfl, a, ha, -⟩ | ⟨rfl, a, ha, -⟩ | ⟨hk, -⟩ :=
      readMember_eq_ok_iff.mp h
    · exact ⟨_, readMember_eq_ok_iff.mpr (.inl ⟨rfl, a, ha, rfl⟩)⟩
    · exact ⟨_, readMember_eq_ok_iff.mpr (.inr (.inl ⟨rfl, a, ha, rfl⟩))⟩
    · exact ⟨_, readMember_eq_ok_iff.mpr (.inr (.inr (.inl ⟨rfl, a, ha, rfl⟩)))⟩
    · exact ⟨_, readMember_eq_ok_iff.mpr (.inr (.inr (.inr (.inl ⟨rfl, a, ha, rfl⟩))))⟩
    · exact ⟨_, readMember_of_unknown hk d' _⟩
  · obtain ⟨hd, hl, hr, he⟩ := places
    exact ⟨hd.of_readMembers hn h, hl.of_readMembers hn h, hr.of_readMembers hn h,
      he.of_readMembers hn h⟩
  · -- A member under a known key is the one that the draft has been filled from.
    obtain ⟨hd, hl, hr, he⟩ := h
    have hk := (member?_eq_some_iff hn).mpr hm
    by_cases hkd : key = "debug"
    · subst hkd
      rw [hk] at hd
      obtain ⟨a, ha, -⟩ := hd
      exact ⟨_, readMember_eq_ok_iff.mpr (.inl ⟨rfl, a, ha, rfl⟩)⟩
    by_cases hkl : key = "log_level"
    · subst hkl
      rw [hk] at hl
      obtain ⟨a, ha, -⟩ := hl
      exact ⟨_, readMember_eq_ok_iff.mpr (.inr (.inl ⟨rfl, a, ha, rfl⟩))⟩
    by_cases hkr : key = "rest_framework"
    · subst hkr
      rw [hk] at hr
      obtain ⟨a, ha, -⟩ := hr
      exact ⟨_, readMember_eq_ok_iff.mpr (.inr (.inr (.inl ⟨rfl, a, ha, rfl⟩)))⟩
    by_cases hke : key = "extra"
    · subst hke
      rw [hk] at he
      obtain ⟨a, ha, -⟩ := he
      exact ⟨_, readMember_eq_ok_iff.mpr (.inr (.inr (.inr (.inl ⟨rfl, a, ha, rfl⟩))))⟩
    · exact ⟨d, readMember_of_unknown (by simp [shape, hkd, hkl, hkr, hke]) d value⟩

/-- The draft in which all settings are filled in. -/
def ofSettings (s : Settings) : Draft where
  debug := some s.debug
  logLevel := some s.logLevel
  rest := some s.rest
  extra := some s.extra

end Draft

theorem ofJson_object_eq_ok_iff :
    ofJson (.object members) = .ok s ↔ shape.readMembers {} members = .ok (.ofSettings s) := by
  rw [ofJson, bind_eq_ok_iff]
  constructor
  · rintro ⟨draft, hr, h⟩
    obtain ⟨debug, hd, h⟩ := bind_eq_ok_iff.mp h
    obtain ⟨logLevel, hl, h⟩ := bind_eq_ok_iff.mp h
    obtain ⟨rest, hrest, h⟩ := bind_eq_ok_iff.mp h
    obtain ⟨extra, he, h⟩ := bind_eq_ok_iff.mp h
    cases h
    rw [required_eq_ok_iff] at hd hl hrest he
    cases draft
    cases hd
    cases hl
    cases hrest
    cases he
    exact hr
  · exact fun hr => ⟨_, hr, rfl⟩

/-- The members of the settings as a document. -/
def entries (s : Settings) : Members :=
  [("debug", .bool s.debug), ("log_level", .string s.logLevel),
    ("rest_framework", s.rest.toJson), ("extra", .object s.extra)]

theorem nodup_entries (s : Settings) : (s.entries.map Prod.fst).Nodup := by
  show List.Nodup ["debug", "log_level", "rest_framework", "extra"]
  decide

/-- What is laid over the settings of derived fields, but for arrays, must be an object. -/
theorem ofJson_merge_rest_iff {default rest : RestSettings} {value : Json}
    (hd : value.DistinctKeys) (ha : ∀ items, value ≠ .array items) :
    RestSettings.ofJson (merge default.toJson value) = .ok rest ↔
      ∃ inner, value = .object inner ∧ RestSettings.LaidOver inner default rest := by
  cases value with
  | object inner =>
    rw [RestSettings.ofJson_merge_eq_ok_iff hd]
    simp only [object.injEq, exists_eq_left']
  | array items => exact absurd rfl (ha items)
  | _ =>
    rw [merge_of_not_isObject (.inr rfl)]
    constructor
    · intro h
      cases h
    · rintro ⟨_, he, -⟩
      cases he

/-- What an object tells when it is read over the defaults, setting by setting. -/
theorem overDefaults_object_eq_ok_iff (h : DistinctKeys (.object members)) :
    overDefaults (.object members) = .ok s ↔
      TellsOr (· = .bool ·) true s.debug (member? "debug" members) ∧
      TellsOr (· = .string ·) "info" s.logLevel (member? "log_level" members) ∧
      TellsOr (fun value rest =>
          RestSettings.ofJson (merge (RestSettings.toJson {}) value) = .ok rest) {} s.rest
        (member? "rest_framework" members) ∧
      TellsOr (· = .object ·) [] s.extra (member? "extra" members) := by
  have hd := nodup_entries {}
  show ofJson (merge (.object (entries {})) (.object members)) = .ok s ↔ _
  rw [merge, ofJson_object_eq_ok_iff, Draft.readMembers_eq_ok_iff (nodup_mergeMembers hd members),
    Draft.filledFrom_iff]
  simp only [member?_mergeMembers hd h.nodup]
  refine and_congr (Draft.tellsOr_fills_merged.trans ?_) (and_congr
    (Draft.tellsOr_fills_merged.trans ?_) (and_congr (Draft.tellsOr_fills_merged.trans ?_)
      (Draft.tellsOr_fills_merged.trans ?_)))
  · exact tellsOr_merged_scalar rfl fun _ _ => bool.inj
  · exact tellsOr_merged_scalar rfl fun _ _ => string.inj
  · refine tellsOr_merged ?_ fun value hv => Iff.rfl
    show Except.ok ({} : RestSettings) = .ok s.rest ↔ s.rest = {}
    rw [Except.ok.injEq, eq_comm]
  · refine tellsOr_merged ?_ fun value hv => ?_
    · rw [object.injEq, eq_comm]
    · rw [merge_object_nil (h.of_member? hv)]

/-- A document is read over the defaults as the settings that have its members laid over them. -/
theorem overDefaults_eq_ok_iff (h : DistinctKeys (.object members))
    (ha : ∀ items, member? "rest_framework" members ≠ some (.array items)) :
    overDefaults (.object members) = .ok s ↔ LaidOver members {} s := by
  rw [overDefaults_object_eq_ok_iff h, laidOver_iff]
  refine and_congr_right' (and_congr_right' (and_congr_left' ?_))
  cases hv : member? "rest_framework" members with
  | none => exact Iff.rfl
  | some value =>
    exact ofJson_merge_rest_iff (h.of_member? hv) fun items he => ha items (he ▸ hv)

end Settings

end FieldMap
