import PatternFs.Config.File
import PatternFs.Proofs.Content.Text
import PatternFs.Proofs.Host.Lookup
import PatternFs.Proofs.Json.Standard

/-! What a configuration file says is what the mount gets. A file may state any of the settings, in
any order and in any spelling, among other members that mean nothing here; the settings it does not
state keep their defaults. A file that has a setting twice is refused. -/
namespace PatternFs.Config

open Json (Names IsText)

variable {l : Json.Library} {c : Config} {setting : Setting} {settings : List Setting}
  {members : List (List Nat × Json)} {v : Json}

/-- The settings from `c` in the list, and the defaults of all others. -/
def only (c : Config) (settings : List Setting) : Config where
  backingDirectory :=
    if .backingDirectory ∈ settings then c.backingDirectory else default.backingDirectory
  fallback := if .fallback ∈ settings then c.fallback else default.fallback
  logLevel := if .logLevel ∈ settings then c.logLevel else default.logLevel
  logFile? := if .logFile ∈ settings then c.logFile? else default.logFile?
  allowOther := if .allowOther ∈ settings then c.allowOther else default.allowOther
  autoUnmount := if .autoUnmount ∈ settings then c.autoUnmount else default.autoUnmount

theorem only_nil : c.only [] = default := rfl

theorem only_all : c.only Setting.all = c := rfl

theorem only_congr {settings' : List Setting} (same : ∀ s, s ∈ settings ↔ s ∈ settings') :
    c.only settings = c.only settings' := by
  simp only [only, same]

/-- The bytes of a pattern, each in decimal digits. -/
def patternJson (pattern : Pattern) : Json :=
  .array (pattern.bytes.toList.map fun b => Json.ofNat b.toNat)

/-- An object with the name of the policy and, for a fixed one, the pattern, in either order. -/
def StatesFallback (v : Json) : Fallback → Prop
  | .counter => ∃ policy, Names "policy" (IsText "counter") policy ∧ v = .object [policy]
  | .reject => ∃ policy, Names "policy" (IsText "reject") policy ∧ v = .object [policy]
  | .fixed p => ∃ policy pattern, Names "policy" (IsText "fixed") policy ∧
      Names "pattern" (· = patternJson p) pattern ∧
      (v = .object [policy, pattern] ∨ v = .object [pattern, policy])

/-- The value states the setting as `c` has it. -/
def Setting.States (c : Config) (v : Json) : Setting → Prop
  | .backingDirectory => IsText c.backingDirectory v
  | .fallback => StatesFallback v c.fallback
  | .logLevel => IsText c.logLevel.name v
  | .logFile =>
    match c.logFile? with
    | some path => IsText path v
    | none => v = .null
  | .allowOther => v = .bool c.allowOther
  | .autoUnmount => v = .bool c.autoUnmount

/-- The members of an object that states these settings of `c`, each of them once, with any other
members around them. -/
inductive Describes (c : Config) : List Setting → List (List Nat × Json) → Prop
  | nil : Describes c [] []
  | setting {setting : Setting} {settings : List Setting} {key : List Nat} {v : Json}
      {members : List (List Nat × Json)} : setting ∉ settings →
      Names setting.name (fun v => setting.States c v) (key, v) → Describes c settings members →
      Describes c (setting :: settings) ((key, v) :: members)
  | other {settings : List Setting} {key : List Nat} {name : String} {v : Json}
      {members : List (List Nat × Json)} : Json.textOfUnits? key = some name →
      (∀ setting : Setting, setting.name ≠ name) → Describes c settings members →
      Describes c settings ((key, v) :: members)

theorem pattern_form (lawful : l.Lawful) (p : Pattern) :
    (patternCodec l).form p.bytes = patternJson p := by
  rw [patternCodec, lawful.array_form, patternJson, funext lawful.byte_form]

theorem pattern_read (lawful : l.Lawful) (p : Pattern) :
    (patternCodec l).read? (patternJson p) = some p.bytes := by
  rw [← pattern_form lawful, patternCodec, lawful.array_form]
  refine lawful.array_read l.byte p.bytes fun b _ => ?_
  rw [lawful.byte_form]
  exact lawful.byte_read b

theorem fallback_read (lawful : l.Lawful) {fallback : Fallback}
    (states : StatesFallback v fallback) : (fallbackCodec l).read? v = some fallback := by
  have apart : "policy" ≠ "pattern" := by decide
  cases fallback with
  | counter | reject =>
    obtain ⟨policy, names, rfl⟩ := states
    exact lawful.constant_read _ apart rfl names
  | fixed p =>
    obtain ⟨policy, pattern, names, ⟨key, holds⟩, arranged⟩ := states
    have known : (fallbackCases l).lookup "fixed" = some (.holding fun v =>
        ((patternCodec l).read? v).map fun bytes => .fixed ⟨bytes⟩) := rfl
    have reads := fun sort => lawful.holding_read sort apart known names ⟨key, trivial⟩
    have read : ((patternCodec l).read? pattern.2).map (fun bytes => Fallback.fixed ⟨bytes⟩) =
        some (.fixed p) := by
      rw [holds, pattern_read lawful]
      rfl
    rcases arranged with rfl | rfl
    · exact (reads _).1.trans read
    · exact (reads _).2.trans read

theorem level_read (lawful : l.Lawful) {level : LogLevel} (text : IsText level.name v) :
    (levelCodec l).read? v = some level := by
  have known : level ∈ LogLevel.all := by cases level <;> decide
  have only : ∀ other ∈ LogLevel.all, other.name = level.name → other = level := by
    cases level <;> decide
  exact lawful.choice_read _ known only text

theorem file_read (lawful : l.Lawful) {file? : Option String}
    (states : match file? with
      | some path => IsText path v
      | none => v = .null) :
    (l.optional l.string).read? v = some file? := by
  cases file? with
  | none =>
    obtain rfl : v = .null := states
    exact lawful.optional_null _
  | some path =>
    have text : IsText path v := states
    have full : v ≠ .null := by
      rintro rfl
      cases text
    rw [lawful.optional_read _ full, lawful.string_read text]
    rfl

theorem read?_of_states (lawful : l.Lawful) (states : setting.States c v) :
    ∃ change, (setting.field l).read? v = some change ∧
      ∀ seen, change (c.only seen) = c.only (setting :: seen) := by
  cases setting with
  | backingDirectory =>
    exact ⟨_, Json.field_read (lawful.string_read states), fun seen => by simp [only]⟩
  | fallback =>
    exact ⟨_, Json.field_read (fallback_read lawful states), fun seen => by simp [only]⟩
  | logLevel => exact ⟨_, Json.field_read (level_read lawful states), fun seen => by simp [only]⟩
  | logFile => exact ⟨_, Json.field_read (file_read lawful states), fun seen => by simp [only]⟩
  | allowOther | autoUnmount =>
    obtain rfl : v = .bool _ := states
    exact ⟨_, Json.field_read (lawful.flag_read _), fun seen => by simp [only]⟩

theorem name_inj {other : Setting} (same : setting.name = other.name) : setting = other := by
  revert same
  cases setting <;> cases other <;> decide

theorem find?_field (l : Json.Library) (setting : Setting) :
    (Setting.all.map (Setting.field l)).find? (·.name = setting.name) =
      some (setting.field l) := by
  cases setting <;> rfl

theorem find?_other {name : String} (other : ∀ setting : Setting, setting.name ≠ name) :
    (Setting.all.map (Setting.field l)).find? (·.name = name) = none := by
  refine List.find?_eq_none.2 fun field member same => ?_
  obtain ⟨setting, -, rfl⟩ := List.mem_map.1 member
  have named : (setting.field l).name = setting.name := by cases setting <;> rfl
  exact other setting (named.symm.trans (of_decide_eq_true same))

theorem gives_of_describes (lawful : l.Lawful) (described : c.Describes settings members) :
    ∃ changes, Json.Gives (Setting.all.map (Setting.field l)) (settings.map Setting.name) members
        changes ∧
      ∀ seen, changes.foldl (fun c change => change c) (c.only seen) =
        c.only (settings.reverse ++ seen) := by
  induction described with
  | nil => exact ⟨[], .nil, fun _ => rfl⟩
  | @setting setting settings key v members once states _ ih =>
    obtain ⟨named, states⟩ := states
    obtain ⟨change, read, changed⟩ := read?_of_states lawful states
    obtain ⟨changes, gives, brought⟩ := ih
    have fresh : setting.name ∉ settings.map Setting.name := fun given => by
      obtain ⟨other, member, same⟩ := List.mem_map.1 given
      exact once (name_inj same ▸ member)
    refine ⟨change :: changes, .field named (find?_field l setting) fresh read gives,
      fun seen => ?_⟩
    rw [List.foldl_cons, changed, brought, List.reverse_cons, List.append_assoc]
    rfl
  | other named other _ ih =>
    obtain ⟨changes, gives, brought⟩ := ih
    exact ⟨changes, .other named (find?_other other) gives, brought⟩

theorem read?_of_describes (lawful : l.Lawful) (described : c.Describes settings members) :
    (codec l).read? (.object members) = some (c.only settings) := by
  obtain ⟨changes, gives, brought⟩ := gives_of_describes lawful described
  have whole := brought []
  have turned : c.only settings.reverse = c.only settings := only_congr fun _ => List.mem_reverse
  rw [only_nil, List.append_nil, turned] at whole
  rw [codec, lawful.record_read gives, whole]

theorem read?_of_repeats (lawful : l.Lawful) (repeats : Json.Repeats setting.name members) :
    (codec l).read? (.object members) = none :=
  lawful.record_repeats (find?_field l setting) repeats

theorem isText_ofText (s : String) : IsText s (Json.ofText s) := Json.textOfUnits?_unitsOfText s

theorem names_ofText (name : String) {kind : Json → Prop} (states : kind v) :
    Names name kind (Json.unitsOfText name, v) := ⟨Json.textOfUnits?_unitsOfText name, states⟩

theorem fallback_form (lawful : l.Lawful) (fallback : Fallback) :
    StatesFallback ((fallbackCodec l).form fallback) fallback := by
  cases fallback with
  | counter | reject => exact lawful.constant_form _ rfl
  | fixed p =>
    have stated : ∃ policy pattern, Names "policy" (IsText "fixed") policy ∧
        Names "pattern" (· = (patternCodec l).form p.bytes) pattern ∧
        (fallbackCodec l).form (.fixed p) = .object [policy, pattern] := lawful.holding_form _ rfl
    rw [pattern_form lawful] at stated
    obtain ⟨policy, pattern, names, holds, form⟩ := stated
    exact ⟨policy, pattern, names, holds, .inl form⟩

theorem states_form (lawful : l.Lawful) (c : Config) (setting : Setting) :
    setting.States c ((setting.field l).form c) := by
  cases setting with
  | backingDirectory => exact lawful.string_form _
  | fallback => exact fallback_form lawful _
  | logLevel => exact lawful.choice_form _ _ _
  | logFile =>
    have form := lawful.optional_form l.string c.logFile?
    rw [Setting.States]
    cases file : c.logFile? with
    | none =>
      rw [file] at form
      exact (congrArg (l.optional l.string).form file).trans form
    | some path =>
      rw [file] at form
      have text := lawful.string_form path
      rwa [show (l.string.form path) = _ from form.symm, ← file] at text
  | allowOther | autoUnmount => exact lawful.flag_form _

theorem writable_of_states (states : setting.States c v) : v.Writable := by
  cases setting with
  | backingDirectory | logLevel => exact Json.writable_of_text? states
  | fallback =>
    rw [Setting.States] at states
    cases fallback : c.fallback with
    | counter | reject =>
      rw [fallback] at states
      obtain ⟨policy, ⟨key, text⟩, rfl⟩ := states
      exact Json.writable_object
        (List.forall_mem_singleton.2 ⟨⟨_, key⟩, Json.writable_of_text? text⟩)
    | fixed p =>
      rw [fallback] at states
      obtain ⟨policy, pattern, ⟨key, text⟩, ⟨key', holds⟩, arranged⟩ := states
      have bytes : pattern.2.Writable := by
        rw [holds]
        refine Json.writable_array fun item among => ?_
        obtain ⟨b, -, rfl⟩ := List.mem_map.1 among
        exact Json.writable_ofNat _
      have first : (∃ name, Json.textOfUnits? policy.1 = some name) ∧ policy.2.Writable :=
        ⟨⟨_, key⟩, Json.writable_of_text? text⟩
      have second : (∃ name, Json.textOfUnits? pattern.1 = some name) ∧ pattern.2.Writable :=
        ⟨⟨_, key'⟩, bytes⟩
      rcases arranged with rfl | rfl
      · exact Json.writable_object
          (List.forall_mem_cons.2 ⟨first, List.forall_mem_singleton.2 second⟩)
      · exact Json.writable_object
          (List.forall_mem_cons.2 ⟨second, List.forall_mem_singleton.2 first⟩)
  | logFile =>
    rw [Setting.States] at states
    cases file : c.logFile? with
    | none =>
      rw [file] at states
      obtain rfl : v = .null := states
      exact Json.writable_null
    | some path =>
      rw [file] at states
      exact Json.writable_of_text? states
  | allowOther | autoUnmount =>
    obtain rfl : v = .bool _ := states
    exact Json.writable_bool _

theorem describes_form (lawful : l.Lawful) (c : Config) {key : String → List Nat}
    (keys : ∀ name, Json.textOfUnits? (key name) = some name) (settings : List Setting)
    (once : settings.Nodup) :
    c.Describes settings ((settings.map (Setting.field l)).map fun field =>
      (key field.name, field.form c)) := by
  induction settings with
  | nil => exact .nil
  | cons setting settings ih =>
    obtain ⟨fresh, once⟩ := List.nodup_cons.1 once
    have named : (setting.field l).name = setting.name := by cases setting <;> rfl
    rw [List.map_cons, List.map_cons, named]
    exact .setting fresh ⟨keys _, states_form lawful c setting⟩ (ih once)

/-- The form of a configuration can be written, and states all settings. -/
theorem form_described (lawful : l.Lawful) (c : Config) :
    ∃ members, (codec l).form c = .object members ∧ (Json.object members).Writable ∧
      c.Describes Setting.all members := by
  obtain ⟨key, keys, form⟩ := lawful.record_form default (Setting.all.map (Setting.field l)) c
  refine ⟨_, form, Json.writable_object fun member among => ?_,
    describes_form lawful c keys Setting.all (by decide)⟩
  obtain ⟨field, listed, rfl⟩ := List.mem_map.1 among
  obtain ⟨setting, -, rfl⟩ := List.mem_map.1 listed
  exact ⟨⟨_, keys _⟩, writable_of_states (states_form lawful c setting)⟩

theorem loadWith_of_parse {h : Host} {path s : String} {v : Json}
    (bytes : h.readBytes path = .ok s.toUTF8.data.toList) (parsed : l.parse? s = some v) :
    loadWith l h path = match (codec l).read? v with
      | some c => .ok c
      | none => .error (.invalidArgument path .malformedConfig) := by
  have read : ofText? l s = (codec l).read? v := by
    rw [ofText?, parsed]
    rfl
  have text := Host.readText_of_bytes bytes
  cases decoded : (codec l).read? v <;> simp only [loadWith, text, ofText, read, decoded]

/-- A configuration file in JSON: whatever blanks, escapes and orders it is written with, loading
it gives the settings that it states and the defaults of all others; members that are no
settings may have any values. What is written for a whole configuration gives that configuration. A
file that has one of the settings twice is refused. -/
theorem load_of_laid (lawful : l.Lawful) (h : Host) (path s : String)
    (bytes : h.readBytes path = .ok s.toUTF8.data.toList) :
    (∀ c settings members, Describes c settings members →
        Json.Laid (Json.object members).tokens s.toList →
        loadWith l h path = .ok (c.only settings)) ∧
      (∀ c, s = l.written ((codec l).form c) → loadWith l h path = .ok c) ∧
      ∀ setting members, Json.Repeats (Setting.name setting) members →
        Json.Laid (Json.object members).tokens s.toList →
        loadWith l h path = .error (.invalidArgument path .malformedConfig) := by
  refine ⟨fun c settings members described laid => ?_, fun c whole => ?_,
    fun setting members repeats laid => ?_⟩
  · rw [loadWith_of_parse bytes (lawful.parse laid), read?_of_describes lawful described]
  · obtain ⟨members, form, writable, described⟩ := form_described lawful c
    have laid := lawful.written writable
    rw [← form, ← whole, form] at laid
    rw [loadWith_of_parse bytes (lawful.parse laid), read?_of_describes lawful described, only_all]
  · rw [loadWith_of_parse bytes (lawful.parse laid), read?_of_repeats lawful repeats]

/-- Two files: one setting with an escape in its value, after a member that means nothing here; and
a setting that comes twice. -/
theorem load_of_two_files :
    let once := "\x7b\"x\" : [1e5] ,\"log_level\":\"\\u0064ebug\"\x7d"
    let members := [(Json.unitsOfText "allow_other", .bool true),
      (Json.unitsOfText "allow_other", .null)]
    let twice := (Json.object members).text
    let file (s : String) : Tree := .file (.ofBytes s.toUTF8.data.toList)
    let host : Host := ⟨.directory [("once.json", file once), ("twice.json", file twice)], []⟩
    loadWith Json.Standard.library host "/once.json" = .ok { default with logLevel := .debug } ∧
      loadWith Json.Standard.library host "/twice.json" =
        .error (.invalidArgument "/twice.json" .malformedConfig) := by
  intro once members twice file host
  constructor
  · let c : Config := { default with logLevel := .debug }
    let members : List (List Nat × Json) :=
      [(Json.unitsOfText "x", .array [.number ['1', 'e', '5']]),
        (Json.unitsOfText "log_level", .string (Json.unitsOfText "debug"))]
    have bytes : host.readBytes ("/" ++ "once.json") = .ok once.toUTF8.data.toList := by
      rw [Host.readBytes_top rfl (by simp [IsComponent]) (by simp) (by simp) (by decide),
        Content.bytes_ofBytes]
    have described : c.Describes [.logLevel] members := by
      have isOther (setting : Setting) : setting.name ≠ "x" := by cases setting <;> decide
      exact .other (Json.textOfUnits?_unitsOfText "x") isOther
        (.setting List.not_mem_nil (names_ofText _ (isText_ofText "debug")) .nil)
    have laid : Json.Laid (Json.object members).tokens once.toList := by
      have exponent : Json.IsExponent ['e', '5'] :=
        .inr ⟨'e', [], ['5'], by simp, by simp, by simp [Json.IsDigits], rfl⟩
      have number : (Json.Token.number ['1', 'e', '5']).Spelled ['1', 'e', '5'] :=
        ⟨rfl, [], ['1'], [], _, by simp, .inr (by simp [Json.IsDigits]), .inl rfl, exponent, rfl⟩
      have debug : Json.Spells (Json.unitsOfText "debug") ("\\u0064".toList ++ "ebug".toList) :=
        .unit (rfl : Text.hexValue? '0' = some 0) (rfl : Text.hexValue? '0' = some 0)
          (rfl : Text.hexValue? '6' = some 6) (rfl : Text.hexValue? '4' = some 4)
          (Json.spells_written (Json.isUnit_of_text (Json.textOfUnits?_unitsOfText "ebug")))
      have nothing : Json.IsBlank [] := nofun
      have space : Json.IsBlank [' '] := List.forall_mem_singleton.2 rfl
      have value := Json.Laid.string debug (.mark (t := .closeObject) rfl rfl (.done nothing))
      have setting := Json.Laid.mark (t := .comma) rfl rfl
        (.mark (Json.spelled_text "log_level") rfl (.mark (t := .colon) rfl rfl value))
      have array := Json.Laid.mark (t := .openArray) rfl rfl
        (.written number (fun _ => Json.endsNumber_cons (by simp))
          (.mark (t := .closeArray) rfl rfl (.blank space setting)))
      have whole := Json.Laid.mark (t := .openObject) rfl rfl
        (.mark (Json.spelled_text "x") rfl
          (.blank space (.mark (t := .colon) rfl rfl (.blank space array))))
      refine Eq.mp (congrArg (Json.Laid _) ?_) whole
      decide +kernel
    have loaded := load_of_laid Json.Standard.lawful host _ once bytes
    exact loaded.1 c [.logLevel] members described laid
  · have bytes : host.readBytes ("/" ++ "twice.json") = .ok twice.toUTF8.data.toList := by
      rw [Host.readBytes_top rfl (by simp [IsComponent]) (by simp) (by simp) (by decide),
        Content.bytes_ofBytes]
    have laid : Json.Laid (Json.object members).tokens twice.toList := by
      have named := Json.textOfUnits?_unitsOfText "allow_other"
      refine Json.laid_text (Json.writable_object ?_)
      simp only [members, List.forall_mem_cons]
      exact ⟨⟨⟨_, named⟩, Json.writable_bool true⟩, ⟨⟨_, named⟩, Json.writable_null⟩, nofun⟩
    have repeats : Json.Repeats Setting.allowOther.name members :=
      ⟨[], _, [], _, [], rfl, names_ofText _ trivial, names_ofText _ trivial⟩
    have loaded := load_of_laid Json.Standard.lawful host _ twice bytes
    exact loaded.2.2 .allowOther members repeats laid

end PatternFs.Config
