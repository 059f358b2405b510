import ScriptHost.Proofs.Trimming
import ScriptHost.Request.Prepare

/-!
# The normal form of requests

Preparing a request brings it into normal form. White space around the target, white space around
the method and the case of its letters do not matter to what comes of it, be it a prepared request
or the text of a refusal; and a request in normal form is prepared to itself.

## Main definitions

* `Request.SameMethod` — two methods that differ in the case of letters and the white space around
  them only.
* `Address.Normalizes` — what is relied on of a way to read addresses.

## Main statements

* `Request.normalMethod_congr` — what is the same of two such methods.
* `Request.prepareWith_eq_ok` — when a request can be prepared, and to what.
* `Request.prepares_to_normal_form` — preparation as a normal form.

## Design notes

How addresses look is left to the function that reads them. Nothing is assumed of it but that it
reads an address in normal form as itself and that such an address has no white space around it.
-/

namespace ScriptHost

/-- What is relied on of a way to read addresses: an address in normal form is read as itself, and
no white space stands around it. -/
structure Address.Normalizes (resolve : String → Except String (Option Address)) : Prop where
  again : ∀ {target : String} {a : Address}, resolve target = .ok (some a) →
    resolve a.text = .ok (some a)
  tight : ∀ {target : String} {a : Address}, resolve target = .ok (some a) →
    Text.trim a.text = a.text

namespace Request

variable {resolve : String → Except String (Option Address)} {r r' : Request} {p : Prepared}
  {m m' : String}

/-- Two methods that differ in nothing but the case of ASCII letters and the white space around
them. -/
def SameMethod (m m' : String) : Prop :=
  ∃ core core' : String, Text.Padded core m ∧ Text.Padded core' m' ∧
    core.toList.map Char.toLower = core'.toList.map Char.toLower

/-! ## Letters -/

theorem upperAscii_of_le {c : Char} (high : 128 ≤ c.toNat) : upperAscii c = c := by
  have other : ¬ c ≤ 'z' := by
    intro low
    have low : c.toNat ≤ 122 := low
    omega
  simp [upperAscii, other]

theorem toLower_of_le {c : Char} (high : 128 ≤ c.toNat) : c.toLower = c := by
  have other : ¬ c ≤ 'Z' := by
    intro low
    have low : c.toNat ≤ 90 := low
    omega
  unfold Char.toLower
  exact dif_neg fun both => other both.2

/-- What holds of the characters of ASCII, each looked at, and of the others, which have no case
here. -/
theorem ascii_cases {motive : Char → Prop} (low : ∀ n < 128, motive (Char.ofNat n))
    (high : ∀ c : Char, 128 ≤ c.toNat → motive c) (c : Char) : motive c := by
  by_cases few : c.toNat < 128
  · exact Text.of_ascii low few
  · exact high c (Nat.le_of_not_lt few)

theorem upperAscii_toLower (c : Char) : upperAscii c.toLower = upperAscii c := by
  refine ascii_cases (motive := fun c => upperAscii c.toLower = upperAscii c) (by decide) ?_ c
  intro c high
  rw [toLower_of_le high]

theorem toLower_upperAscii (c : Char) : (upperAscii c).toLower = c.toLower := by
  refine ascii_cases (motive := fun c => (upperAscii c).toLower = c.toLower) (by decide) ?_ c
  intro c high
  rw [upperAscii_of_le high]

theorem isBlank_toLower (c : Char) : Text.isBlank c.toLower = Text.isBlank c := by
  refine ascii_cases (motive := fun c => Text.isBlank c.toLower = Text.isBlank c) (by decide) ?_ c
  intro c high
  rw [toLower_of_le high]

theorem map_upperAscii_congr {cs cs' : List Char}
    (same : cs.map Char.toLower = cs'.map Char.toLower) :
    cs.map upperAscii = cs'.map upperAscii := by
  have lower : ∀ cs : List Char, cs.map upperAscii = (cs.map Char.toLower).map upperAscii := by
    intro cs
    rw [List.map_map]
    exact List.map_congr_left fun c _ => (upperAscii_toLower c).symm
  rw [lower cs, same, ← lower cs']

/-! ## Methods -/

theorem normalMethod_of_blank (blank : Text.isAllBlank m = true) : normalMethod m = "GET" := by
  have none : Text.trimChars m.toList = [] :=
    Text.trimChars_eq_nil_iff.2 (Text.isAllBlank_iff.1 blank)
  simp [normalMethod, none]

theorem normalMethod_of_not_blank (given : Text.isAllBlank m = false) :
    normalMethod m = String.ofList ((Text.trimChars m.toList).map upperAscii) := by
  have some : Text.trimChars m.toList ≠ [] := by
    intro none
    rw [Text.trimChars_eq_nil_iff, ← Text.isAllBlank_iff, given] at none
    cases none
  simp [normalMethod, some]

/-- A method that is not blank is the same as its normal form. -/
theorem sameMethod_normalMethod (given : Text.isAllBlank m = false) :
    SameMethod m (normalMethod m) := by
  have unpadded : Text.Padded (normalMethod m) (normalMethod m) := ⟨"", "", rfl, rfl, by simp⟩
  refine ⟨Text.trim m, normalMethod m, Text.padded_trim m, unpadded, ?_⟩
  rw [normalMethod_of_not_blank given, Text.toList_trim, String.toList_ofList, List.map_map]
  exact List.map_congr_left fun c _ => (toLower_upperAscii c).symm

/-- Methods have the same normal form if they differ in case and white space only. -/
theorem normalMethod_congr (same : SameMethod m m') : normalMethod m = normalMethod m' := by
  obtain ⟨core, core', padded, padded', letters⟩ := same
  -- The letters of the two methods agree once the white space that each core may still have at its
  -- ends is gone.
  have trimmed : (Text.trimChars m.toList).map upperAscii =
      (Text.trimChars m'.toList).map upperAscii := by
    rw [padded.trimChars_eq, padded'.trimChars_eq]
    refine map_upperAscii_congr ?_
    rw [← Text.trimChars_map isBlank_toLower, ← Text.trimChars_map isBlank_toLower, letters]
  have length := congrArg List.length trimmed
  simp only [List.length_map] at length
  simp only [normalMethod, trimmed, List.isEmpty_iff, ← List.length_eq_zero_iff, length]

/-- The methods that a request may have are in normal form. -/
theorem normalMethod_of_mem (mem : m ∈ methods) : normalMethod m = m := by
  have all : ∀ m ∈ methods, normalMethod m = m := by decide +kernel
  exact all m mem

theorem isUpper_of_mem (mem : m ∈ methods) : m.toList.all Char.isUpper = true := by
  have all : ∀ m ∈ methods, m.toList.all Char.isUpper = true := by decide +kernel
  exact all m mem

/-! ## Preparation -/

theorem prepareWith_of_error {why : String} (unread : resolve (Text.trim r.target) = .error why) :
    r.prepareWith resolve =
      .error (.malformedRequest ("'" ++ Text.trim r.target ++ "': " ++ why)) := by
  simp only [prepareWith, unread]
  rfl

theorem prepareWith_of_none (noHost : resolve (Text.trim r.target) = .ok none) :
    r.prepareWith resolve =
      .error (.malformedRequest ("'" ++ Text.trim r.target ++ "' has no host")) := by
  simp only [prepareWith, noHost]
  rfl

theorem prepareWith_of_some {a : Address} (read : resolve (Text.trim r.target) = .ok (some a)) :
    r.prepareWith resolve =
      if a.host = "" then
        .error (.malformedRequest ("'" ++ Text.trim r.target ++ "' has no host"))
      else if normalMethod r.method ∈ methods then
        .ok ⟨a.text, a.scheme, a.host, normalMethod r.method, r.payload⟩
      else .error (.malformedRequest ("unsupported method '" ++ normalMethod r.method ++ "'")) := by
  simp only [prepareWith, read]
  by_cases noHost : a.host = ""
  · simp [noHost]
    rfl
  · by_cases supported : normalMethod r.method ∈ methods
    · simp [noHost, supported]
      rfl
    · simp [noHost, supported]
      rfl

/-- Preparation looks at nothing of a request but its trimmed target, the normal form of its method
and its payload. -/
theorem prepareWith_congr (target : Text.trim r.target = Text.trim r'.target)
    (method : normalMethod r.method = normalMethod r'.method) (payload : r.payload = r'.payload) :
    r.prepareWith resolve = r'.prepareWith resolve := by
  have same : resolve (Text.trim r.target) = resolve (Text.trim r'.target) := congrArg _ target
  cases read : resolve (Text.trim r'.target) with
  | error why => rw [prepareWith_of_error read, prepareWith_of_error (same.trans read), target]
  | ok address =>
    cases address with
    | none => rw [prepareWith_of_none read, prepareWith_of_none (same.trans read), target]
    | some a =>
      rw [prepareWith_of_some read, prepareWith_of_some (same.trans read), target, method, payload]

/-- A request can be prepared if its target names a host and its method is supported. -/
theorem prepareWith_eq_ok :
    r.prepareWith resolve = .ok p ↔
      resolve (Text.trim r.target) = .ok (some ⟨p.url, p.scheme, p.host⟩) ∧ p.host ≠ "" ∧
        p.method = normalMethod r.method ∧ p.method ∈ methods ∧ p.payload = r.payload := by
  cases read : resolve (Text.trim r.target) with
  | error why => simp [prepareWith_of_error read]
  | ok address =>
    cases address with
    | none => simp [prepareWith_of_none read]
    | some a =>
      rw [prepareWith_of_some read]
      constructor
      · intro prepared
        split at prepared
        · cases prepared
        next host =>
        split at prepared
        · next supported =>
          cases prepared
          exact ⟨rfl, host, rfl, supported, rfl⟩
        · cases prepared
      · rintro ⟨same, host, method, supported, payload⟩
        obtain rfl : a = ⟨p.url, p.scheme, p.host⟩ := by simpa using same
        rw [if_neg host, ← method, if_pos supported, ← payload]

/-- Two requests that differ in the white space around target and method, in the case of the
method's letters and in what is to become of the answer only are prepared to the same or refused
with the same text; a blank method counts as `GET`. A prepared request has one of the supported
methods, which is that of the request, a host that is not empty, the address that its target writes,
of which it has the scheme and the host, and the payload of the request. It is in normal form: the
request that it makes again is prepared to it. -/
theorem prepares_to_normal_form (normalizes : Address.Normalizes resolve) :
    (∀ r r' : Request, Text.SameWithin r.target r'.target → SameMethod r.method r'.method →
        r.payload = r'.payload → r.prepareWith resolve = r'.prepareWith resolve) ∧
      (∀ (r : Request) (blank : String), Text.isAllBlank blank = true →
        { r with method := blank }.prepareWith resolve =
          { r with method := "GET" }.prepareWith resolve) ∧
      ∀ (r : Request) (p : Prepared), r.prepareWith resolve = .ok p →
        p.method ∈ methods ∧ p.method.toList.all Char.isUpper = true ∧
          (if Text.isAllBlank r.method then p.method = "GET" else SameMethod r.method p.method) ∧
          p.host ≠ "" ∧
          resolve (Text.trim r.target) = .ok (some ⟨p.url, p.scheme, p.host⟩) ∧
          resolve p.url = .ok (some ⟨p.url, p.scheme, p.host⟩) ∧
          p.payload = r.payload ∧
          ∀ processData, (⟨p.url, p.payload, p.method, processData⟩ : Request).prepareWith resolve =
            .ok p := by
  refine ⟨fun r r' target method payload => ?_, fun r blank isBlank => ?_, fun r p prepared => ?_⟩
  · exact prepareWith_congr (Text.sameWithin_iff.1 target) (normalMethod_congr method) payload
  · have get : normalMethod "GET" = "GET" := normalMethod_of_mem (List.mem_cons_self ..)
    exact prepareWith_congr rfl ((normalMethod_of_blank isBlank).trans get.symm) rfl
  obtain ⟨read, host, method, supported, payload⟩ := prepareWith_eq_ok.1 prepared
  have again : resolve p.url = .ok (some ⟨p.url, p.scheme, p.host⟩) := normalizes.again read
  have again' : resolve (Text.trim p.url) = .ok (some ⟨p.url, p.scheme, p.host⟩) := by
    rw [normalizes.tight read]
    exact again
  refine ⟨supported, isUpper_of_mem supported, ?_, host, read, again, payload,
    fun processData => ?_⟩
  · split
    · next blank => rw [method, normalMethod_of_blank blank]
    · next given => exact method ▸ sameMethod_normalMethod (Bool.eq_false_iff.2 given)
  · exact prepareWith_eq_ok.2
      ⟨again', host, (normalMethod_of_mem supported).symm, supported, rfl⟩

/-- A way to read two addresses, one of them the normal form of the other. -/
def readsTwo (target : String) : Except String (Option Address) :=
  if target = "HTTP://H" ∨ target = "http://h/" then .ok (some ⟨"http://h/", "http", "h"⟩)
  else .error "relative URL without a base"

theorem readsTwo_normalizes : Address.Normalizes readsTwo := by
  have only : ∀ {target : String} {a : Address}, readsTwo target = .ok (some a) →
      a = ⟨"http://h/", "http", "h"⟩ := by
    intro target a read
    unfold readsTwo at read
    split at read
    · simpa using read.symm
    · cases read
  constructor
  · intro target a read
    rw [only read]
    rfl
  · intro target a read
    rw [only read]
    decide

/-- On these addresses it reads what the host of a session reads. -/
theorem prepares_to_normal_form_twice :
    Address.resolve "HTTP://H" = readsTwo "HTTP://H" ∧
      Address.resolve "http://h/" = readsTwo "http://h/" ∧
      (⟨"\tHTTP://H ", some "x", " get\n", true⟩ : Request).prepareWith readsTwo =
        .ok ⟨"http://h/", "http", "h", "GET", some "x"⟩ ∧
      (⟨"http://h/", some "x", "GET", false⟩ : Request).prepareWith readsTwo =
        .ok ⟨"http://h/", "http", "h", "GET", some "x"⟩ := by
  have prepared : (⟨"\tHTTP://H ", some "x", " get\n", true⟩ : Request).prepareWith readsTwo =
      .ok ⟨"http://h/", "http", "h", "GET", some "x"⟩ := by decide +kernel
  obtain ⟨-, -, normal⟩ := prepares_to_normal_form readsTwo_normalizes
  obtain ⟨-, -, -, -, -, -, -, again⟩ := normal _ _ prepared
  exact ⟨by decide +kernel, by decide +kernel, prepared, again false⟩

end Request
end ScriptHost
