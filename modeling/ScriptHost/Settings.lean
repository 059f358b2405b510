import ScriptHost.Failure
import ScriptHost.Locale
import ScriptHost.Number.Single

/-!
# Session settings

What a session is started with. Every setting has a default; a session is refused if one of them
makes no sense.

## Main definitions

* `FormFactor` — the class of device that scripts are told.
* `Settings` — all settings of a session; `Settings.default` has the defaults.
* `Settings.set` — one setting changed in code, by a `Setting`.
* `Settings.validate` — the first reason to refuse, in a fixed order.
* `Settings.reader`, `Settings.toJson` — the JSON form.

## Design notes

Whether a path is a directory is asked of the caller. Durations given in code are cut to whole
milliseconds and to 64 bits.
-/

namespace ScriptHost

/-- The class of device that scripts are told. -/
inductive FormFactor where
  | phone
  | tablet
deriving DecidableEq, Repr, Inhabited

namespace FormFactor

/-- The name of a form factor. -/
def name : FormFactor → String
  | phone => "phone"
  | tablet => "tablet"

/-- The form factor of that name. -/
def named : String → Option FormFactor
  | "phone" => some phone
  | "tablet" => some tablet
  | _ => none

/-- Reads a form factor. -/
def reader : Json.Reader FormFactor := Json.choice named

end FormFactor

/-- The settings of a session. -/
structure Settings where
  /-- The entry script, required once the engine is up. -/
  scriptPath : Option String
  /-- The directory of bundled scripts and assets. -/
  assetRoot : Option String
  /-- Milliseconds between sweeps of the graveyard. -/
  cleanupInterval : Nat
  /-- The size of the pool for requests; without it each request has a thread of its own. -/
  workerThreads : Option Nat
  /-- A locale tag that overrides the environment. -/
  locale : Option String
  /-- A time zone that overrides the environment. -/
  timezone : Option String
  density : Single
  formFactor : FormFactor
  /-- Milliseconds before the engine is brought up. -/
  startupDelay : Nat
deriving DecidableEq, Repr, Inhabited

/-- A duration in seconds and nanoseconds. -/
structure Span where
  seconds : Nat
  nanoseconds : Nat
deriving DecidableEq, Repr, Inhabited

/-- Whole milliseconds of a duration, at most what 64 bits hold. -/
def Span.milliseconds (s : Span) : Nat :=
  min (Nat.pow 2 64 - 1) (s.seconds * 1000 + s.nanoseconds / 1000000)

/-- A setting changed in code. -/
inductive Setting where
  | scriptPath (path : String)
  | assetRoot (path : String)
  | cleanupInterval (span : Span)
  | workerThreads (count : Nat)
  | locale (tag : String)
  | timezone (zone : String)
  | density (d : Single)
  | formFactor (f : FormFactor)
  | startupDelay (span : Span)
deriving Repr, Inhabited

namespace Settings

/-- The defaults. -/
def default : Settings :=
  ⟨none, none, 10000, none, none, none, Single.one, .phone, 0⟩

/-- One setting changed. -/
def set (s : Settings) : Setting → Settings
  | .scriptPath path => { s with scriptPath := some path }
  | .assetRoot path => { s with assetRoot := some path }
  | .cleanupInterval span => { s with cleanupInterval := span.milliseconds }
  | .workerThreads count => { s with workerThreads := some count }
  | .locale tag => { s with locale := some tag }
  | .timezone zone => { s with timezone := some zone }
  | .density d => { s with density := d }
  | .formFactor f => { s with formFactor := f }
  | .startupDelay span => { s with startupDelay := span.milliseconds }

/-- The first reason to refuse a session with these settings. -/
def validate (isDirectory : String → Bool) (s : Settings) : Except Failure Unit := do
  if let some root := s.assetRoot then
    if !isDirectory root then
      throw (.missingResource ("asset root '" ++ root ++ "' is not a directory"))
  if let some path := s.scriptPath then
    if Text.isAllBlank path then
      throw (.invalidSettings "script_path cannot be empty")
  if s.cleanupInterval = 0 then
    throw (.invalidSettings "cleanup_interval_ms must be positive")
  if s.workerThreads = some 0 then
    throw (.invalidSettings "worker_threads must be positive when set")
  if !s.density.isPositive then
    throw (.invalidSettings ("density must be a positive number, got " ++ s.density.plain))

/-! ## The JSON form -/

/-- The number that stands for a density: the shortest digits, positional from 10^-6 to below 10^13
and with an exponent elsewhere; null if it is not finite. -/
def densityToJson : Single → Json.Value
  | .finite negative m =>
    let d := Single.shortest m
    let digits := (toString d.digits).toList.map Json.digitValue
    let lead : Int := d.power + digits.length - 1
    if m.mantissa = 0 then .number ⟨negative, 0, [0], none⟩
    else if lead < -6 || lead > 12 then
      .number ⟨negative, Json.ofDigits (digits.take 1), digits.drop 1, some lead⟩
    else if d.power ≥ 0 then .number ⟨negative, d.digits * Nat.pow 10 d.power.toNat, [0], none⟩
    else
      let places := (-d.power).toNat
      let padded := List.replicate (places - digits.length) 0 ++ digits
      .number ⟨negative, d.digits / Nat.pow 10 places, padded.drop (padded.length - places), none⟩
  | _ => .null

/-- The JSON form of settings. -/
def toJson (s : Settings) : Json.Value :=
  .object
    [("script_path", .ofText? s.scriptPath),
     ("asset_root", .ofText? s.assetRoot),
     ("cleanup_interval_ms", .ofNat s.cleanupInterval),
     ("worker_threads", match s.workerThreads with | none => .null | some n => .ofNat n),
     ("locale", .ofText? s.locale),
     ("timezone", .ofText? s.timezone),
     ("density", densityToJson s.density),
     ("form_factor", .text s.formFactor.name),
     ("startup_delay_ms", .ofNat s.startupDelay)]

/-- The density that a number denotes: an integer of 64 bits is rounded once, any other number is
read in binary64 first. -/
def densityOfNumber (n : Json.Number) : Single :=
  let direct := n.isIntegral && n.whole < (if n.negative then Nat.pow 2 63 + 1 else Nat.pow 2 64)
    && !(n.negative && n.whole == 0)
  if direct then Single.ofRatio n.negative n.whole 1
  else match n.double? with
    | some m => Single.ofRatio n.negative m.numerator m.denominator
    | none => .infinite n.negative

/-- Settings of which some fields have been read. -/
structure Draft where
  scriptPath : Option (Option String)
  assetRoot : Option (Option String)
  cleanupInterval : Option Nat
  workerThreads : Option (Option Nat)
  locale : Option (Option String)
  timezone : Option (Option String)
  density : Option Single
  formFactor : Option FormFactor
  startupDelay : Option Nat

/-- How settings are read: absent fields have their defaults. -/
def shape : Json.Shape Draft Settings where
  fields :=
    [⟨"script_path", (·.scriptPath.isSome),
      do let v ← Json.nullable Json.string; pure fun d => { d with scriptPath := some v }⟩,
     ⟨"asset_root", (·.assetRoot.isSome),
      do let v ← Json.nullable Json.string; pure fun d => { d with assetRoot := some v }⟩,
     ⟨"cleanup_interval_ms", (·.cleanupInterval.isSome),
      do let v ← Json.natural (Nat.pow 2 64); pure fun d => { d with cleanupInterval := some v }⟩,
     ⟨"worker_threads", (·.workerThreads.isSome),
      do
        let v ← Json.nullable (Json.natural (Nat.pow 2 64))
        pure fun d => { d with workerThreads := some v }⟩,
     ⟨"locale", (·.locale.isSome),
      do let v ← Json.nullable Json.string; pure fun d => { d with locale := some v }⟩,
     ⟨"timezone", (·.timezone.isSome),
      do let v ← Json.nullable Json.string; pure fun d => { d with timezone := some v }⟩,
     ⟨"density", (·.density.isSome),
      do let n ← Json.anyNumber; pure fun d => { d with density := some (densityOfNumber n) }⟩,
     ⟨"form_factor", (·.formFactor.isSome),
      do let f ← FormFactor.reader; pure fun d => { d with formFactor := some f }⟩,
     ⟨"startup_delay_ms", (·.startupDelay.isSome),
      do let v ← Json.natural (Nat.pow 2 64); pure fun d => { d with startupDelay := some v }⟩]
  blank := ⟨none, none, none, none, none, none, none, none, none⟩
  openEnded := true
  finish d := some
    { scriptPath := d.scriptPath.getD default.scriptPath
      assetRoot := d.assetRoot.getD default.assetRoot
      cleanupInterval := d.cleanupInterval.getD default.cleanupInterval
      workerThreads := d.workerThreads.getD default.workerThreads
      locale := d.locale.getD default.locale
      timezone := d.timezone.getD default.timezone
      density := d.density.getD default.density
      formFactor := d.formFactor.getD default.formFactor
      startupDelay := d.startupDelay.getD default.startupDelay }

/-- Reads settings. -/
def reader : Json.Reader Settings := Json.record shape

end Settings
end ScriptHost
