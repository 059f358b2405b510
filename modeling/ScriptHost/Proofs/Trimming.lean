import Mathlib.Data.List.DropRight
import ScriptHost.Text.Blank

/-!
# Trimming

A text is its trimmed form with white space around it. Two texts therefore have the same trimmed
form exactly if they differ in nothing but the white space around them.

## Main definitions

* `Text.Edged` — characters that neither begin nor end with white space.
* `Text.Padded` — a text with white space around it.
* `Text.SameWithin` — two texts that are the same inside the white space around them.

## Main statements

* `Text.trimChars_pad` — white space around a text does not matter to its trimmed form.
* `Text.sameWithin_iff` — the trimmed form is what is the same inside.
-/

namespace ScriptHost
namespace Text

variable {cs before behind : List Char} {s t core : String}

/-- Characters that neither begin nor end with white space. -/
def Edged (cs : List Char) : Prop :=
  (∀ c ∈ cs.head?, isBlank c = false) ∧ ∀ c ∈ cs.getLast?, isBlank c = false

/-- A text with white space around it. -/
def Padded (core s : String) : Prop :=
  ∃ before behind : String, isAllBlank before = true ∧ isAllBlank behind = true ∧
    s = before ++ core ++ behind

/-- Two texts that are the same inside the white space around them. -/
def SameWithin (s t : String) : Prop := ∃ core, Padded core s ∧ Padded core t

/-! ## Characters -/

/-- The characters of ASCII are few enough to look at each. -/
theorem of_ascii {p : Char → Prop} {c : Char} (each : ∀ n < 128, p (Char.ofNat n))
    (low : c.toNat < 128) : p c :=
  Char.ofNat_toNat c ▸ each _ low

theorem trimChars_eq (cs : List Char) :
    trimChars cs = (cs.dropWhile isBlank).rdropWhile isBlank := rfl

theorem edged_trimChars (cs : List Char) : Edged (trimChars cs) := by
  rw [trimChars_eq]
  constructor
  · intro c first
    -- What is left at the end of the characters begins where these begin.
    obtain ⟨tail, whole⟩ := List.rdropWhile_prefix isBlank (cs.dropWhile isBlank)
    have first' : (cs.dropWhile isBlank).head? = some c := by
      rw [← whole, List.head?_append, Option.mem_def.1 first, Option.some_or]
    have start := List.head?_dropWhile_not isBlank cs
    rw [first'] at start
    exact start
  · intro c last
    obtain ⟨nonempty, rfl⟩ := List.mem_getLast?_eq_getLast last
    exact Bool.eq_false_iff.2 (List.rdropWhile_last_not isBlank _ nonempty)

theorem trimChars_of_edged (h : Edged cs) : trimChars cs = cs := by
  obtain ⟨first, last⟩ := h
  have left : cs.dropWhile isBlank = cs := by
    refine List.dropWhile_eq_self_iff.2 fun nonempty => ?_
    rw [first _ (by rw [List.head?_eq_getElem?, List.getElem?_eq_getElem nonempty]; rfl)]
    exact Bool.false_ne_true
  have right : cs.rdropWhile isBlank = cs := by
    refine List.rdropWhile_eq_self_iff.2 fun nonempty => ?_
    rw [last _ (List.getLast?_eq_getLast_of_ne_nil nonempty)]
    exact Bool.false_ne_true
  rw [trimChars_eq, left, right]

/-- White space around characters does not matter to their trimmed form. -/
theorem trimChars_pad (blank : ∀ c ∈ before, isBlank c = true)
    (blank' : ∀ c ∈ behind, isBlank c = true) :
    trimChars (before ++ cs ++ behind) = trimChars cs := by
  rw [List.append_assoc, trimChars, List.dropWhile_append_of_pos blank, List.dropWhile_append]
  by_cases all : cs.dropWhile isBlank = []
  · -- Nothing but white space comes together.
    have none : behind.dropWhile isBlank = [] := List.dropWhile_eq_nil_iff.2 blank'
    simp [trimChars, all, none]
  · rw [if_neg (by simpa using all), List.reverse_append,
      List.dropWhile_append_of_pos fun c mem => blank' c (List.mem_reverse.1 mem), trimChars]

/-- Characters are their trimmed form with white space around it. -/
theorem exists_pad (cs : List Char) :
    ∃ before behind : List Char, (∀ c ∈ before, isBlank c = true) ∧
      (∀ c ∈ behind, isBlank c = true) ∧ cs = before ++ trimChars cs ++ behind := by
  refine ⟨cs.takeWhile isBlank, (cs.dropWhile isBlank).rtakeWhile isBlank,
    fun c mem => List.mem_takeWhile_imp mem, fun c mem => List.mem_rtakeWhile_imp mem, ?_⟩
  rw [trimChars_eq, List.append_assoc, List.rdropWhile_append_rtakeWhile,
    List.takeWhile_append_dropWhile]

theorem mem_of_mem_trimChars {c : Char} (mem : c ∈ trimChars cs) : c ∈ cs := by
  obtain ⟨before, behind, -, -, whole⟩ := exists_pad cs
  rw [whole]
  exact List.mem_append_left _ (List.mem_append_right _ mem)

theorem trimChars_eq_nil_iff : trimChars cs = [] ↔ ∀ c ∈ cs, isBlank c = true := by
  constructor
  · intro none
    obtain ⟨before, behind, blank, blank', whole⟩ := exists_pad cs
    rw [none, List.append_nil] at whole
    intro c mem
    rw [whole] at mem
    exact (List.mem_append.1 mem).elim (blank c) (blank' c)
  · intro blank
    have padded : trimChars (cs ++ [] ++ []) = trimChars [] := trimChars_pad blank nofun
    rwa [List.append_nil, List.append_nil] at padded

/-- What neither makes nor removes white space can be done before trimming or behind it. -/
theorem trimChars_map {f : Char → Char} (keeps : ∀ c, isBlank (f c) = isBlank c) (cs : List Char) :
    trimChars (cs.map f) = (trimChars cs).map f := by
  have same : isBlank ∘ f = isBlank := funext keeps
  simp only [trimChars, List.dropWhile_map, ← List.map_reverse, same]

/-! ## Texts -/

theorem isAllBlank_iff : isAllBlank s = true ↔ ∀ c ∈ s.toList, isBlank c = true :=
  List.all_eq_true

theorem toList_trim (s : String) : (trim s).toList = trimChars s.toList :=
  String.toList_ofList

theorem Padded.trimChars_eq (h : Padded core s) : trimChars s.toList = trimChars core.toList := by
  obtain ⟨before, behind, blank, blank', rfl⟩ := h
  rw [String.toList_append, String.toList_append]
  exact trimChars_pad (isAllBlank_iff.1 blank) (isAllBlank_iff.1 blank')

theorem padded_trim (s : String) : Padded (trim s) s := by
  obtain ⟨before, behind, blank, blank', whole⟩ := exists_pad s.toList
  refine ⟨String.ofList before, String.ofList behind, ?_, ?_, ?_⟩
  · exact isAllBlank_iff.2 (by simpa using blank)
  · exact isAllBlank_iff.2 (by simpa using blank')
  · rw [← String.toList_inj]
    simpa [toList_trim] using whole

/-- The trimmed form is what is the same inside the white space around two texts. -/
theorem sameWithin_iff : SameWithin s t ↔ trim s = trim t := by
  constructor
  · rintro ⟨core, padded, padded'⟩
    rw [trim, trim, padded.trimChars_eq, padded'.trimChars_eq]
  · intro same
    exact ⟨trim s, padded_trim s, same ▸ padded_trim t⟩

end Text
end ScriptHost
