import ScriptHost.Locale
import ScriptHost.Proofs.LetterCase

/-!
# Locales named again

The name of a locale is itself a tag. Taken as one, it names the same locale, unless the tag it came
from had white space before a separator with nothing behind it: the white space is inside the tag
when that is trimmed, and at the end of the name once the separator is left out.

## Main definitions

* `Locale.spoken`, `Locale.named` — the language that a code names, and the name of a locale, both
  as characters.
* `Locale.LeavesBlank` — a tag whose name ends in white space.

## Main statements

* `Locale.named_named` — a name stands for itself.
* `Locale.edged_named_iff` — which tags leave white space at the end of a name.
* `Locale.ofTag_restored` — what a locale is when it is named by its own name.
-/

namespace ScriptHost
namespace Locale

open Text (Edged Lowered Recased isBlank lowerChars trimChars upperChar)

variable {cs rest : List Char} {tag timezone : String}

/-- The language that a code names. -/
def spoken (cs : List Char) : List Char :=
  if neutral.contains (String.ofList (lowerChars [] cs)) then ['e', 'n'] else lowerChars [] cs

/-- The characters before the first separator, or all of them. -/
def code (cs : List Char) : List Char := cs.takeWhile (· != '_')

/-- The characters behind the first separator, in upper case. -/
def country (cs : List Char) : List Char := ((cs.dropWhile (· != '_')).drop 1).flatMap upperChar

/-- The name of the locale that characters stand for. -/
def named (cs : List Char) : List Char :=
  if country cs = [] then spoken (code cs) else spoken (code cs) ++ '_' :: country cs

/-- Characters with nothing at which a tag is cut and no other separator. -/
def Unified (cs : List Char) : Prop := '.' ∉ cs ∧ '@' ∉ cs ∧ '-' ∉ cs

/-- A tag with white space between its language and a separator that nothing follows. -/
def LeavesBlank (tag : String) : Prop :=
  ∃ cs blank, isBlank blank = true ∧ '_' ∉ cs ∧ base tag = cs ++ [blank, '_']

/-! ## The parts of a tag -/

theorem ofTag_eq (tag timezone : String) :
    ofTag tag timezone =
      ⟨String.ofList (named (base tag)), String.ofList (spoken (code (base tag))), timezone⟩ := by
  have english : "en" = String.ofList ['e', 'n'] := rfl
  have separator : "_" = String.ofList ['_'] := rfl
  unfold ofTag named spoken country code
  simp only [Text.lowercase, Text.uppercase, String.toList_ofList, english, separator,
    ← apply_ite String.ofList, ← String.ofList_append, String.isEmpty_iff,
    String.ofList_eq_empty_iff, List.append_assoc, List.singleton_append]

theorem code_of_not_mem (none : '_' ∉ cs) : code cs = cs ∧ country cs = [] := by
  have all : ∀ c ∈ cs, (c != '_') = true := fun c mem => by
    simpa using fun eq : c = '_' => none (eq ▸ mem)
  have behind : cs.dropWhile (· != '_') = [] := List.dropWhile_eq_nil_iff.2 all
  exact ⟨List.takeWhile_eq_self_iff.2 all, by rw [country, behind]; rfl⟩

theorem code_append (none : '_' ∉ cs) (rest : List Char) :
    code (cs ++ '_' :: rest) = cs ∧ country (cs ++ '_' :: rest) = rest.flatMap upperChar := by
  have all : ∀ c ∈ cs, (c != '_') = true := fun c mem => by
    simpa using fun eq : c = '_' => none (eq ▸ mem)
  rw [code, country, List.takeWhile_append_of_pos all, List.dropWhile_append_of_pos all]
  simp

/-- Characters have no separator or a first one. -/
theorem separator_cases (cs : List Char) :
    '_' ∉ cs ∨ ∃ first rest, '_' ∉ first ∧ cs = first ++ '_' :: rest := by
  by_cases mem : '_' ∈ cs
  · obtain ⟨first, rest, whole, none⟩ := List.eq_append_cons_of_mem mem
    exact .inr ⟨first, rest, none, whole⟩
  · exact .inl mem

/-! ## Languages -/

/-- A language is English or a code in lower case that is not neutral. -/
theorem spoken_cases (cs : List Char) :
    spoken cs = ['e', 'n'] ∧ neutral.contains (String.ofList (lowerChars [] cs)) = true ∨
      spoken cs = lowerChars [] cs ∧
        neutral.contains (String.ofList (lowerChars [] cs)) = false := by
  unfold spoken
  split
  · next h => exact .inl ⟨rfl, h⟩
  · next h => exact .inr ⟨rfl, Bool.eq_false_iff.2 h⟩

/-- No neutral language ends with white space. -/
theorem last_neutral (h : neutral.contains (String.ofList cs) = true) :
    cs.getLast?.map isBlank ≠ some true := by
  have names : ["", "c", "posix"] = [[], ['c'], ['p', 'o', 's', 'i', 'x']].map String.ofList := rfl
  rw [neutral, names, List.contains_iff_mem, List.mem_map] at h
  obtain ⟨cs', mem, same⟩ := h
  obtain rfl := String.ofList_injective same
  revert cs'
  decide

theorem spoken_ne_nil (cs : List Char) : spoken cs ≠ [] := by
  obtain ⟨eq, -⟩ | ⟨eq, other⟩ := spoken_cases cs <;> rw [eq]
  · exact List.cons_ne_nil _ _
  · intro none
    rw [none] at other
    exact absurd other (by decide)

/-- No gap comes into a language. -/
theorem mem_of_mem_spoken {c : Char} (gap : c.toNat ∈ Text.gaps) (mem : c ∈ spoken cs) :
    c ∈ cs := by
  obtain ⟨eq, -⟩ | ⟨eq, -⟩ := spoken_cases cs <;> rw [eq] at mem
  · exfalso
    revert gap
    obtain rfl | mem := List.mem_cons.1 mem
    · decide
    · obtain rfl := List.mem_singleton.1 mem
      decide
  · exact (Text.recased_lowerChars [] cs).mem_of_gap gap mem

/-- The code of a language names that language. -/
theorem spoken_spoken (cs : List Char) : spoken (spoken cs) = spoken cs := by
  obtain ⟨eq, -⟩ | ⟨eq, other⟩ := spoken_cases cs
  · rw [eq]
    decide +kernel
  · have again : lowerChars [] (lowerChars [] cs) = lowerChars [] cs :=
      Text.lowerChars_of_lowered (Text.lowered_lowerChars [] cs) []
    rw [eq, spoken, again, other]
    rfl

/-- A language begins with white space only if its code does. -/
theorem head_spoken (full : cs.head?.map isBlank ≠ some true) :
    (spoken cs).head?.map isBlank ≠ some true := by
  obtain ⟨eq, -⟩ | ⟨eq, -⟩ := spoken_cases cs <;> rw [eq]
  · decide
  · rwa [(Text.recased_lowerChars [] cs).head_blank]

/-- A language ends with white space if and only if its code does. -/
theorem last_spoken (cs : List Char) :
    (spoken cs).getLast?.map isBlank = some true ↔ cs.getLast?.map isBlank = some true := by
  rw [← (Text.recased_lowerChars [] cs).last_blank]
  obtain ⟨eq, h⟩ | ⟨eq, -⟩ := spoken_cases cs
  · rw [eq]
    exact iff_of_false (by decide) (last_neutral h)
  · rw [eq]

theorem not_mem_spoken (none : '_' ∉ cs) : '_' ∉ spoken cs :=
  fun mem => none (mem_of_mem_spoken (by decide) mem)

/-! ## Names -/

theorem country_eq_nil_iff (rest : List Char) : rest.flatMap upperChar = [] ↔ rest = [] :=
  (Text.recased_upper rest).eq_nil_iff

theorem named_of_not_mem (none : '_' ∉ cs) : named cs = spoken cs := by
  obtain ⟨first, empty⟩ := code_of_not_mem none
  rw [named, if_pos empty, first]

theorem named_append (none : '_' ∉ cs) (rest : List Char) :
    named (cs ++ '_' :: rest) =
      if rest = [] then spoken cs else spoken cs ++ '_' :: rest.flatMap upperChar := by
  obtain ⟨first, behind⟩ := code_append none rest
  simp only [named, first, behind, country_eq_nil_iff]

/-- A name has the parts of the characters that it was made of. -/
theorem parts_named (cs : List Char) :
    code (named cs) = spoken (code cs) ∧ country (named cs) = country cs := by
  obtain none | ⟨first, rest, none, rfl⟩ := separator_cases cs
  · rw [named_of_not_mem none, (code_of_not_mem none).1, (code_of_not_mem none).2]
    exact code_of_not_mem (not_mem_spoken none)
  · rw [named_append none, (code_append none rest).1, (code_append none rest).2]
    by_cases last : rest = []
    · rw [if_pos last, last]
      exact code_of_not_mem (not_mem_spoken none)
    · rw [if_neg last, (code_append (not_mem_spoken none) _).1,
        (code_append (not_mem_spoken none) _).2,
        Text.flatMap_upperChar_of_uppered (Text.uppered_flatMap rest)]
      exact ⟨rfl, rfl⟩

/-- A name stands for itself. -/
theorem named_named (cs : List Char) : named (named cs) = named cs := by
  obtain ⟨first, behind⟩ := parts_named cs
  rw [named, first, behind, spoken_spoken, ← named]

/-- Nothing at which a tag would be cut comes into a name. -/
theorem mem_of_mem_named {c : Char} (gap : c.toNat ∈ Text.gaps) (mem : c ∈ named cs) :
    c ∈ cs ∨ c = '_' := by
  obtain none | ⟨first, rest, none, rfl⟩ := separator_cases cs
  · rw [named_of_not_mem none] at mem
    exact .inl (mem_of_mem_spoken gap mem)
  · rw [named_append none] at mem
    split at mem
    · exact .inl (List.mem_append_left _ (mem_of_mem_spoken gap mem))
    · obtain mem | mem := List.mem_append.1 mem
      · exact .inl (List.mem_append_left _ (mem_of_mem_spoken gap mem))
      · obtain rfl | mem := List.mem_cons.1 mem
        · exact .inr rfl
        · have mem := (Text.recased_upper rest).mem_of_gap gap mem
          exact .inl (List.mem_append_right _ (List.mem_cons_of_mem _ mem))

theorem Unified.named (h : Unified cs) : Unified (named cs) := by
  obtain ⟨point, sign, dash⟩ := h
  exact ⟨fun mem => (mem_of_mem_named (by decide) mem).elim point (by decide),
    fun mem => (mem_of_mem_named (by decide) mem).elim sign (by decide),
    fun mem => (mem_of_mem_named (by decide) mem).elim dash (by decide)⟩

/-! ## Bases -/

theorem base_eq (tag : String) :
    base tag = trimChars ((tag.toList.takeWhile fun c => c != '.' && c != '@').map
      fun c => if c = '-' then '_' else c) := by
  refine (Text.trimChars_map (fun c => ?_) _).symm
  split
  · next eq => rw [eq]; rfl
  · rfl

theorem edged_base (tag : String) : Edged (base tag) := by
  rw [base_eq]
  exact Text.edged_trimChars _

theorem unified_base (tag : String) : Unified (base tag) := by
  have mark : ∀ c ∈ base tag, c ≠ '.' ∧ c ≠ '@' ∧ c ≠ '-' := by
    intro c mem
    obtain ⟨d, within, rfl⟩ := List.mem_map.1 mem
    have kept := List.mem_takeWhile_imp (Text.mem_of_mem_trimChars within)
    simp only [Bool.and_eq_true, bne_iff_ne] at kept
    split
    · decide
    · next other => exact ⟨kept.1, kept.2, other⟩
  exact ⟨fun mem => (mark _ mem).1 rfl, fun mem => (mark _ mem).2.1 rfl,
    fun mem => (mark _ mem).2.2 rfl⟩

/-- Of characters that a tag may keep it keeps all but the white space around them. -/
theorem base_ofList (h : Unified cs) : base (String.ofList cs) = trimChars cs := by
  obtain ⟨point, sign, dash⟩ := h
  have uncut : cs.takeWhile (fun c => c != '.' && c != '@') = cs := by
    refine List.takeWhile_eq_self_iff.2 fun c mem => ?_
    rw [Bool.and_eq_true, bne_iff_ne, bne_iff_ne]
    exact ⟨fun eq => point (eq ▸ mem), fun eq => sign (eq ▸ mem)⟩
  have same : ∀ c ∈ trimChars cs, (if c = '-' then '_' else c) = c := fun c mem =>
    if_neg fun eq : c = '-' => dash (eq ▸ Text.mem_of_mem_trimChars mem)
  rw [base, String.toList_ofList, uncut, List.map_congr_left same, List.map_id']

/-! ## White space at the end -/

theorem edged_iff : Edged cs ↔
    cs.head?.map isBlank ≠ some true ∧ cs.getLast?.map isBlank ≠ some true := by
  simp [Edged]

theorem edged_spoken (h : Edged cs) : Edged (spoken cs) :=
  edged_iff.2 ⟨head_spoken (edged_iff.1 h).1, mt (last_spoken cs).1 (edged_iff.1 h).2⟩

theorem head_of_append (full : (cs ++ '_' :: rest).head?.map isBlank ≠ some true) :
    cs.head?.map isBlank ≠ some true := by
  cases cs with
  | nil => exact nofun
  | cons c cs => exact full

/-- White space is no separator. -/
theorem not_mem_concat {blank : Char} (blank_ : isBlank blank = true) (none : '_' ∉ cs) :
    '_' ∉ cs ++ [blank] := by
  rw [List.mem_append, List.mem_singleton]
  rintro (mem | rfl)
  · exact none mem
  · exact absurd blank_ (by decide)

/-- Only a separator at the end leaves the white space before it at the end of the language. -/
theorem edged_spoken_iff (h : Edged (cs ++ ['_'])) : Edged (spoken cs) ↔
    ¬ ∃ first blank, isBlank blank = true ∧ cs = first ++ [blank] := by
  have head := head_spoken (head_of_append (edged_iff.1 h).1)
  rw [edged_iff, and_iff_right head, Ne, not_iff_not, last_spoken]
  constructor
  · intro last
    obtain ⟨blank, found, blank_⟩ := Option.map_eq_some_iff.1 last
    obtain ⟨first, rfl⟩ := List.getLast?_eq_some_iff.1 found
    exact ⟨first, blank, blank_, rfl⟩
  · rintro ⟨first, blank, blank_, rfl⟩
    rw [List.getLast?_concat, Option.map_some, blank_]

/-- With a country the name ends as the country does. -/
theorem edged_country (h : Edged (cs ++ '_' :: rest)) (some : rest ≠ []) :
    Edged (spoken cs ++ '_' :: rest.flatMap upperChar) := by
  obtain ⟨first, last⟩ := edged_iff.1 h
  refine edged_iff.2 ⟨?_, ?_⟩
  · rw [List.head?_append_of_ne_nil _ (spoken_ne_nil cs)]
    exact head_spoken (head_of_append first)
  · rw [List.getLast?_append_of_ne_nil _ (List.cons_ne_nil _ _),
      List.getLast?_cons_of_ne_nil (mt (country_eq_nil_iff rest).1 some),
      (Text.recased_upper rest).last_blank]
    rwa [List.getLast?_append_of_ne_nil _ (List.cons_ne_nil _ _),
      List.getLast?_cons_of_ne_nil some] at last

/-- A name ends in white space if and only if it is a language that does, out of a code before a
separator with nothing behind it. -/
theorem edged_named_iff (h : Edged cs) : Edged (named cs) ↔
    ¬ ∃ first blank, isBlank blank = true ∧ '_' ∉ first ∧ cs = first ++ [blank, '_'] := by
  obtain none | ⟨first, rest, none, rfl⟩ := separator_cases cs
  · rw [named_of_not_mem none]
    refine iff_of_true (edged_spoken h) ?_
    rintro ⟨first, blank, -, -, rfl⟩
    exact none (by simp)
  · rw [named_append none]
    by_cases nothing : rest = []
    · obtain rfl := nothing
      rw [if_pos rfl, edged_spoken_iff h, not_iff_not]
      constructor
      · rintro ⟨first, blank, blank_, rfl⟩
        exact ⟨first, blank, blank_, fun mem => none (List.mem_append_left _ mem), by simp⟩
      · rintro ⟨first', blank, blank_, -, whole⟩
        refine ⟨first', blank, blank_, (List.append_left_inj ['_']).1 ?_⟩
        rw [whole, List.append_assoc]
        rfl
    · rw [if_neg nothing]
      refine iff_of_true (edged_country h nothing) ?_
      rintro ⟨first', blank, blank_, none', whole⟩
      -- The first separator cannot stand at the end and before something.
      have parts := (code_append none rest).2
      rw [whole, List.append_cons, (code_append (not_mem_concat blank_ none') []).2] at parts
      exact nothing ((country_eq_nil_iff rest).1 parts.symm)

/-! ## Locales -/

theorem toList_name (tag timezone : String) :
    (ofTag tag timezone).name.toList = named (base tag) := by
  rw [ofTag_eq, String.toList_ofList]

/-- A name without white space at its ends names its own locale. -/
theorem ofTag_name (edged : Edged (ofTag tag timezone).name.toList) :
    ofTag (ofTag tag timezone).name timezone = ofTag tag timezone := by
  rw [toList_name] at edged
  have again : base (ofTag tag timezone).name = named (base tag) := by
    rw [ofTag_eq, base_ofList (unified_base tag).named, Text.trimChars_of_edged edged]
  rw [ofTag_eq _ timezone, again, named_named, (parts_named _).1, spoken_spoken, ← ofTag_eq]

theorem edged_name_iff (tag timezone : String) :
    Edged (ofTag tag timezone).name.toList ↔ ¬ LeavesBlank tag := by
  rw [toList_name]
  exact edged_named_iff (edged_base tag)

/-- A tag that leaves white space at the end of a name names a locale by its language only. -/
theorem LeavesBlank.name_eq (h : LeavesBlank tag) (timezone : String) :
    (ofTag tag timezone).name = (ofTag tag timezone).language ∧
      '_' ∉ (ofTag tag timezone).name.toList := by
  obtain ⟨first, blank, blank_, none, whole⟩ := h
  have none' := not_mem_concat blank_ none
  have base : base tag = (first ++ [blank]) ++ '_' :: [] := by rw [whole]; simp
  have name : named (Locale.base tag) = spoken (first ++ [blank]) := by
    rw [base, named_append none', if_pos rfl]
  refine ⟨?_, ?_⟩
  · rw [ofTag_eq, name, base, (code_append none' []).1]
  · rw [toList_name, name]
    exact not_mem_spoken none'

theorem base_name (tag timezone : String) :
    base (ofTag tag timezone).name = trimChars (named (base tag)) := by
  rw [ofTag_eq, base_ofList (unified_base tag).named]

/-- Named again, a locale has no white space at the ends of its name. -/
theorem edged_again (tag timezone : String) :
    Edged (ofTag (ofTag tag timezone).name timezone).name.toList := by
  by_cases blank : LeavesBlank tag
  · -- The name is a language without a separator, so nothing can be left out at its end.
    refine (edged_name_iff _ timezone).2 ?_
    rintro ⟨first, last, -, -, whole⟩
    rw [base_name, ← toList_name tag timezone] at whole
    have mem : '_' ∈ trimChars (ofTag tag timezone).name.toList := by rw [whole]; simp
    exact (blank.name_eq timezone).2 (Text.mem_of_mem_trimChars mem)
  · have edged := (edged_name_iff tag timezone).2 blank
    rwa [ofTag_name edged]

theorem language_ne_empty (tag timezone : String) : (ofTag tag timezone).language ≠ "" := by
  rw [ofTag_eq]
  exact mt String.ofList_eq_empty_iff.1 (spoken_ne_nil _)

/-- A name is a language alone or with a country behind it. -/
theorem name_cases (tag timezone : String) :
    (ofTag tag timezone).name = (ofTag tag timezone).language ∨
      ∃ country, country ≠ "" ∧
        (ofTag tag timezone).name = (ofTag tag timezone).language ++ "_" ++ country := by
  rw [ofTag_eq]
  dsimp only
  unfold named
  by_cases none : country (base tag) = []
  · rw [if_pos none]
    exact .inl rfl
  · have separator : "_" = String.ofList ['_'] := rfl
    refine .inr ⟨String.ofList (country (base tag)), mt String.ofList_eq_empty_iff.1 none, ?_⟩
    rw [if_neg none, separator, ← String.ofList_append, ← String.ofList_append, List.append_assoc,
      List.singleton_append]

/-- What a locale is when it is named by its own name, as by the settings of a later session. Its
language is never empty, and its name is the language alone or with a country behind it. It is the
same locale, except for a tag that leaves white space at the end of the name; the locale that this
name stands for is then the same however often it is named again. -/
theorem ofTag_restored (tag timezone : String) :
    (ofTag tag timezone).language ≠ "" ∧
      ((ofTag tag timezone).name = (ofTag tag timezone).language ∨ ∃ country, country ≠ "" ∧
        (ofTag tag timezone).name = (ofTag tag timezone).language ++ "_" ++ country) ∧
      (ofTag (ofTag tag timezone).name timezone = ofTag tag timezone ↔ ¬ LeavesBlank tag) ∧
      (∀ env, capture (some (ofTag tag timezone).name) (some timezone) env = ofTag tag timezone ↔
        ¬ LeavesBlank tag) ∧
      ofTag (ofTag (ofTag tag timezone).name timezone).name timezone =
        ofTag (ofTag tag timezone).name timezone := by
  have edged := edged_again tag timezone
  have stays : ofTag (ofTag tag timezone).name timezone = ofTag tag timezone ↔
      ¬ LeavesBlank tag := by
    rw [← edged_name_iff tag timezone]
    constructor
    · intro same
      rwa [same] at edged
    · exact @ofTag_name tag timezone
  exact ⟨language_ne_empty tag timezone, name_cases tag timezone, stays,
    fun _ => stays, @ofTag_name (ofTag tag timezone).name timezone edged⟩

/-- The separator of this tag keeps the blank inside until it is left out. -/
example : ofTag "de _" "UTC" = ⟨"de ", "de ", "UTC"⟩ ∧ ofTag "de " "UTC" = ⟨"de", "de", "UTC"⟩ := by
  decide +kernel

end Locale
end ScriptHost
