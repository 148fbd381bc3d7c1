import FieldMap.Proofs.LetterCase
import FieldMap.Proofs.Loading

/-!
# Layers of settings

Settings that a file and the environment make have three layers, and each setting but the further
ones is told by the first layer that speaks of it: its own variable, the file's document, the
defaults (`Settings.Layered`). With no variable set this is what reading the document comes to
(`Settings.layered_of_overDefaults`), also where the settings of derived fields are given by
position (`RestSettings.of_ofJson_array`). An environment is then laid over it, setting by setting
(`Settings.Layered.withEnvironment`). Of two environments laid one over the other the later one
counts where it speaks (`Settings.withEnvironment_withEnvironment`).
-/

namespace FieldMap

open Json

variable {members : Members}

/-! ## Variables -/

/-- The words for true. -/
def wordsForTrue : List String :=
  ["true", "1", "yes"]

theorem ascii_wordsForTrue :
    ∀ word ∈ wordsForTrue, ∀ x ∈ word.toList, x.toNat < 128 ∧ x ≠ 'i' ∧ x ≠ 'k' := by
  simp [wordsForTrue]

/-- What a variable's text means for a switch: it is on exactly for a word for true, in small
letters or capitals. -/
def MeansSwitch (text : String) (on : Bool) : Prop :=
  on = true ↔ ∃ word ∈ wordsForTrue, Text.Spells text word

theorem meansSwitch_isTrueText (text : String) : MeansSwitch text (isTrueText text) := by
  rw [MeansSwitch, isTrueText, List.contains_iff_mem]
  constructor
  · exact fun h => ⟨_, h, (Text.lowercase_eq_iff (ascii_wordsForTrue _ h)).mp rfl⟩
  · rintro ⟨word, hw, hs⟩
    rw [(Text.lowercase_eq_iff (ascii_wordsForTrue word hw)).mpr hs]
    exact hw

/-- One environment with another laid over it. -/
def Environment.overriddenBy (first second : Environment) : Environment :=
  fun name => (second name).or (first name)

theorem Environment.overriddenBy_self (env : Environment) : env.overriddenBy env = env :=
  funext fun _ => Option.or_self

/-! ## Files -/

/-- A file with the bytes of a text gives that text. -/
theorem FileTree.readText_of_read {tree : FileTree} {path text : String}
    (h : tree.read path = .ok text.toUTF8) : tree.readText path = .ok text := by
  have hutf8 : String.fromUTF8? text.toUTF8 = some text := dif_pos text.isValidUTF8
  simp only [readText, h, bind, Except.bind, hutf8, pure, Except.pure]

/-! ## Documents -/

/-- The settings of derived fields that an array tells, item by item. -/
theorem RestSettings.of_ofJson_array {items : List Json} {s : RestSettings}
    (h : ofJson (.array items) = .ok s) :
    TellsOr (· = .string ·) "{model_name}-detail" s.viewNameFormat
      items[(shape.fields.map Prod.fst).idxOf "view_name_format"]? ∧
    TellsOr (· = .string ·) "url" s.urlFieldName
      items[(shape.fields.map Prod.fst).idxOf "url_field_name"]? ∧
    TellsOr (· = .bool ·) false s.hyperlinked
      items[(shape.fields.map Prod.fst).idxOf "hyperlinked"]? := by
  have hn : (shape.fields.map Prod.fst).Nodup := by decide
  obtain ⟨hv, hu, hh⟩ := places
  exact ⟨hv.of_read_array hn h, hu.of_read_array hn h, hh.of_read_array hn h⟩

namespace Settings

/-- What a document tells of a setting of derived fields: the member under the setting's key, or the
item at the key's position where these settings are given as an array. -/
def restValue? (members : Members) (key : String) : Option Json :=
  match member? "rest_framework" members with
  | some (.object inner) => member? key inner
  | some (.array items) => items[(RestSettings.shape.fields.map Prod.fst).idxOf key]?
  | _ => none

/-- A setting is what its variable means, if that is set, else what the document tells, and else the
default. -/
def Layer {α : Type} (means : String → α → Prop) (text? : Option String)
    (tells : Json → α → Prop) (found : Option Json) (default value : α) : Prop :=
  match text? with
  | some text => means text value
  | none => TellsOr tells default value found

/-- Each setting is told by the first layer that speaks of it. -/
structure Layered (env : Environment) (members : Members) (s : Settings) : Prop where
  debug : Layer MeansSwitch (env "DJANGO_DEBUG") (· = .bool ·) (member? "debug" members) true
    s.debug
  logLevel : Layer Eq (env "DJANGO_LOG_LEVEL") (· = .string ·) (member? "log_level" members)
    "info" s.logLevel
  viewNameFormat : Layer Eq (env "DJANGO_REST_VIEW_NAME_FORMAT") (· = .string ·)
    (restValue? members "view_name_format") "{model_name}-detail" s.rest.viewNameFormat
  urlFieldName : Layer Eq (env "DJANGO_REST_URL_FIELD_NAME") (· = .string ·)
    (restValue? members "url_field_name") "url" s.rest.urlFieldName
  hyperlinked : Layer MeansSwitch (env "DJANGO_REST_HYPERLINKED") (· = .bool ·)
    (restValue? members "hyperlinked") false s.rest.hyperlinked
  extra : TellsOr (· = .object ·) [] s.extra (member? "extra" members)

variable {s : Settings}

/-- What is laid over the default settings of derived fields tells each of them. -/
theorem tellsOr_restValue (h : DistinctKeys (.object members)) {rest : RestSettings}
    (hr : TellsOr (fun value rest => RestSettings.ofJson (merge (RestSettings.toJson {}) value) =
      .ok rest) {} rest (member? "rest_framework" members)) :
    TellsOr (· = .string ·) "{model_name}-detail" rest.viewNameFormat
      (restValue? members "view_name_format") ∧
    TellsOr (· = .string ·) "url" rest.urlFieldName (restValue? members "url_field_name") ∧
    TellsOr (· = .bool ·) false rest.hyperlinked (restValue? members "hyperlinked") := by
  simp only [restValue?]
  cases hv : member? "rest_framework" members with
  | none =>
    rw [hv] at hr
    obtain rfl : rest = {} := hr
    exact ⟨rfl, rfl, rfl⟩
  | some value =>
    rw [hv, TellsOr] at hr
    cases value with
    | object inner =>
      exact RestSettings.laidOver_iff.mp
        ((RestSettings.ofJson_merge_eq_ok_iff (h.of_member? hv)).mp hr)
    | array items =>
      rw [merge_of_not_isObject (.inr rfl)] at hr
      exact RestSettings.of_ofJson_array hr
    | _ =>
      rw [merge_of_not_isObject (.inr rfl)] at hr
      cases hr

/-- An object read over the defaults makes settings of two layers. -/
theorem layered_of_overDefaults (h : DistinctKeys (.object members))
    (ho : overDefaults (.object members) = .ok s) : Layered (fun _ => none) members s := by
  obtain ⟨hd, hl, hr, he⟩ := (overDefaults_object_eq_ok_iff h).mp ho
  obtain ⟨hv, hu, hh⟩ := tellsOr_restValue h hr
  exact ⟨hd, hl, hv, hu, hh, he⟩

/-- The settings of a text in TOML are those of an object. -/
theorem exists_object_of_ofText {text : String} (h : ofText .toml text = .ok s) :
    ∃ members, Format.parse? .toml text = some (.object members) ∧
      overDefaults (.object members) = .ok s := by
  cases hp : Format.parse? .toml text with
  | none =>
    rw [ofText, hp] at h
    cases h
  | some document =>
    rw [ofText_of_parse? hp] at h
    obtain ⟨value, hv, rfl⟩ := Option.map_eq_some_iff.mp hp
    cases ho : overDefaults value.toJson with
    | error cause =>
      rw [ho] at h
      cases h
    | ok settings =>
      rw [ho] at h
      cases h
      obtain ⟨entries, rfl⟩ | ⟨moment, rfl⟩ := Toml.table_or_moment_of_parse? hv
      · exact ⟨_, rfl, ho⟩
      · cases ho

/-! ## The environment -/

theorem layer_getD {α : Type} {means : String → α → Prop} {text? : Option String}
    {tells : Json → α → Prop} {found : Option Json} {default value : α} (read : String → α)
    (hr : ∀ text, means text (read text)) (h : TellsOr tells default value found) :
    Layer means text? tells found default ((text?.map read).getD value) := by
  cases text? with
  | none => exact h
  | some text => exact hr text

theorem layer_getD_text {text? : Option String} {tells : Json → String → Prop}
    {found : Option Json} {default value : String} (h : TellsOr tells default value found) :
    Layer Eq text? tells found default (text?.getD value) := by
  have hl : Layer Eq text? tells found default ((text?.map id).getD value) :=
    layer_getD id (fun _ => rfl) h
  rwa [Option.map_id_apply] at hl

/-- An environment laid over settings makes the first layer of them. -/
theorem Layered.withEnvironment (h : Layered (fun _ => none) members s) (env : Environment) :
    Layered env members (s.withEnvironment env) where
  debug := layer_getD isTrueText meansSwitch_isTrueText h.debug
  logLevel := layer_getD_text h.logLevel
  viewNameFormat := layer_getD_text h.viewNameFormat
  urlFieldName := layer_getD_text h.urlFieldName
  hyperlinked := layer_getD isTrueText meansSwitch_isTrueText h.hyperlinked
  extra := h.extra

/-- Environments laid one after the other are one environment, in which the later one counts. -/
theorem withEnvironment_withEnvironment (s : Settings) (first second : Environment) :
    withEnvironment second (withEnvironment first s) =
      withEnvironment (first.overriddenBy second) s := by
  simp only [withEnvironment, Environment.overriddenBy, Option.map_or, Option.getD_or]

/-- The variables that override settings. -/
def overridingNames : List String :=
  ["DJANGO_DEBUG", "DJANGO_LOG_LEVEL", "DJANGO_REST_VIEW_NAME_FORMAT",
    "DJANGO_REST_URL_FIELD_NAME", "DJANGO_REST_HYPERLINKED"]

/-- No other variable is looked at. -/
theorem withEnvironment_congr {env env' : Environment}
    (h : ∀ name ∈ overridingNames, env name = env' name) (s : Settings) :
    withEnvironment env s = withEnvironment env' s := by
  have hd := h "DJANGO_DEBUG" (by decide)
  have hl := h "DJANGO_LOG_LEVEL" (by decide)
  have hv := h "DJANGO_REST_VIEW_NAME_FORMAT" (by decide)
  have hu := h "DJANGO_REST_URL_FIELD_NAME" (by decide)
  have hh := h "DJANGO_REST_HYPERLINKED" (by decide)
  simp only [withEnvironment, hd, hl, hv, hu, hh]

/-- The settings of a file in TOML under an environment. They are there, with the same errors, as if
no environment was laid over them, and each of them but the further ones is what its own variable
means, else what the document tells, else the default. Laying environments over settings composes:
of two the later one counts where it speaks, the same one counts once, and no variable but the five
counts. -/
theorem ofFileWithEnvironment_byLayers {files : FileTree} {path text : String}
    (h : files.readText path = .ok text) :
    (∀ env, (∃ s, ofFileWithEnvironment files .toml path env = .ok s) ↔
      ∃ s, ofText .toml text = .ok s) ∧
    (∀ env e, ofFileWithEnvironment files .toml path env = .error e ↔
      ofText .toml text = .error e) ∧
    (∀ env s, ofFileWithEnvironment files .toml path env = .ok s →
      ∃ members fromFile, Format.parse? .toml text = some (.object members) ∧
        ofText .toml text = .ok fromFile ∧ Layered env members s ∧ s.extra = fromFile.extra) ∧
    (∀ s first second, withEnvironment second (withEnvironment first s) =
      withEnvironment (first.overriddenBy second) s) ∧
    (∀ s env, withEnvironment env (withEnvironment env s) = withEnvironment env s) ∧
    ∀ s env env', (∀ name ∈ overridingNames, env name = env' name) →
      withEnvironment env s = withEnvironment env' s := by
  have hfile (env : Environment) : ofFileWithEnvironment files .toml path env =
      (ofText .toml text).map (withEnvironment env) := by
    rw [ofFileWithEnvironment, ofFile, h]
    rfl
  refine ⟨fun env => ?_, fun env e => ?_, fun env s hs => ?_, withEnvironment_withEnvironment,
    fun s env => ?_, fun s env env' hsame => withEnvironment_congr hsame s⟩
  · rw [hfile]
    cases ofText .toml text <;> simp [Except.map]
  · rw [hfile]
    cases ofText .toml text <;> simp [Except.map]
  · rw [hfile] at hs
    cases ht : ofText .toml text with
    | error e =>
      rw [ht] at hs
      cases hs
    | ok fromFile =>
      rw [ht] at hs
      cases hs
      obtain ⟨members, hp, ho⟩ := exists_object_of_ofText ht
      have hd := Format.distinctKeys_of_parse? hp
      exact ⟨members, fromFile, hp, rfl, (layered_of_overDefaults hd ho).withEnvironment env, rfl⟩
  · rw [withEnvironment_withEnvironment, Environment.overriddenBy_self]

/-- A file that gives the settings of derived fields as an array, under a switch that is turned off:
each layer tells one of the settings. -/
theorem ofFileWithEnvironment_byLayers_array :
    ∃ files : FileTree, files.readText "settings.toml" = .ok "rest_framework = ['d', 'href']" ∧
      ∃ s, ofFileWithEnvironment files .toml "settings.toml"
          (Environment.ofList [("DJANGO_DEBUG", "off")]) = .ok s ∧
        s.debug = false ∧ s.rest.urlFieldName = "href" ∧ s.logLevel = "info" := by
  let files : FileTree := {
    workingDirectory := ["srv"]
    entries := [(["srv"], .directory),
      (["srv", "settings.toml"], .file "rest_framework = ['d', 'href']".toUTF8)] }
  have htext : files.readText "settings.toml" = .ok "rest_framework = ['d', 'href']" :=
    FileTree.readText_of_read rfl
  have hp : Format.parse? .toml "rest_framework = ['d', 'href']" =
      some (.object [("rest_framework", .array [.string "d", .string "href"])]) := by
    decide +kernel
  have hok : ∃ s, ofText .toml "rest_framework = ['d', 'href']" = .ok s := by
    rw [ofText_of_parse? hp]
    exact ⟨_, rfl⟩
  obtain ⟨hsuccess, -, hlayers, -⟩ := ofFileWithEnvironment_byLayers htext
  obtain ⟨s, hs⟩ := (hsuccess (Environment.ofList [("DJANGO_DEBUG", "off")])).mpr hok
  obtain ⟨members, fromFile, hm, -, hl, -⟩ := hlayers _ s hs
  cases hp.symm.trans hm
  refine ⟨files, htext, s, hs, ?_, ?_, hl.logLevel⟩
  · have hdebug : MeansSwitch "off" s.debug := hl.debug
    simpa [MeansSwitch, wordsForTrue, Text.Spells] using hdebug
  · have hurl : Json.string "href" = .string s.rest.urlFieldName := hl.urlFieldName
    exact (string.inj hurl).symm

end Settings

end FieldMap
