import ScriptHost.Json.Record
import ScriptHost.Text.Blank
import ScriptHost.Text.Case

/-!
# Locales

A locale is taken once, when a session starts, from the settings or else from the environment.

## Main definitions

* `Locale` — locale name, language and time zone.
* `Locale.ofTag` — the locale that a tag such as `de_DE.UTF-8`, `en-US` or `C` names.
* `Locale.capture` — the locale of a session, from overrides and `Environment`.
* `Locale.reader`, `Locale.toJson` — the JSON form.

## Design notes

A tag is cut at the first point or at-sign, freed of surrounding white space, and split at the first
separator. The language is in lower case and the country in upper case; the neutral languages count
as English.
-/

namespace ScriptHost

/-- Language, country and time zone as scripts see them. -/
structure Locale where
  /-- The language, and the country behind an underscore if there is one. -/
  name : String
  language : String
  timezone : String
deriving DecidableEq, Repr, Inhabited

namespace Locale

/-- The part of a tag before its character set or modifier, with one kind of separator. -/
def base (tag : String) : List Char :=
  (Text.trimChars (tag.toList.takeWhile fun c => c != '.' && c != '@')).map
    fun c => if c = '-' then '_' else c

/-- The neutral languages, which count as English. -/
def neutral : List String := ["", "c", "posix"]

/-- The locale that a tag names. -/
def ofTag (tag timezone : String) : Locale :=
  let base := base tag
  let named := Text.lowercase (String.ofList (base.takeWhile (· != '_')))
  let country := Text.uppercase (String.ofList ((base.dropWhile (· != '_')).drop 1))
  let language := if neutral.contains named then "en" else named
  { name := if country.isEmpty then language else language ++ "_" ++ country
    language
    timezone }

/-- The variables of the environment that a locale depends on. -/
structure Environment where
  lcAll : Option String
  lang : Option String
  tz : Option String
deriving Inhabited

/-- A variable that is set to more than white space. -/
def nonBlank? (v : Option String) : Option String := v.filter (!Text.isAllBlank ·)

/-- The locale of a session: overrides come first, then the environment. -/
def capture (tag timezone : Option String) (env : Environment) : Locale :=
  let tag := tag <|> nonBlank? env.lcAll <|> nonBlank? env.lang
  let timezone := timezone <|> nonBlank? env.tz
  ofTag (tag.getD "") (timezone.getD "UTC")

/-- The JSON form of a locale. -/
def toJson (l : Locale) : Json.Value :=
  .object [("locale", .text l.name), ("language", .text l.language), ("timezone", .text l.timezone)]

/-- A locale of which some fields have been read. -/
structure Draft where
  name : Option String
  language : Option String
  timezone : Option String

/-- How a locale is read. -/
def shape : Json.Shape Draft Locale where
  fields :=
    [⟨"locale", (·.name.isSome), do let s ← Json.string; pure fun d => { d with name := some s }⟩,
     ⟨"language", (·.language.isSome),
      do let s ← Json.string; pure fun d => { d with language := some s }⟩,
     ⟨"timezone", (·.timezone.isSome),
      do let s ← Json.string; pure fun d => { d with timezone := some s }⟩]
  blank := ⟨none, none, none⟩
  openEnded := false
  finish d := do some ⟨← d.name, ← d.language, ← d.timezone⟩

/-- Reads a locale. -/
def reader : Json.Reader Locale := Json.record shape

end Locale
end ScriptHost
