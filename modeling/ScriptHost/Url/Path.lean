import ScriptHost.Url.Percent

/-!
# Paths

The segments of a path are escaped, and those that mean this place or the place above are carried
out.

## Main definitions

* `Path.stays`, `Path.climbs` — the segments that stand for this place and the one above.
* `Path.isDrive` — segments that name a drive.
* `Path.walk` — the segments that remain.
* `Path.ofFile?` — the same for the addresses of files.
* `Path.text` — a path as it is written.

## Design notes

A dot may be written as an escape. A path never climbs out of its root, nor out of a drive. After a
last segment that was carried out, an empty one remains, so that the path ends with a slash.
-/

namespace ScriptHost
namespace Url
namespace Path

/-- The dots of a segment that consists of them, plain or escaped. -/
def dots? : List Char → Option Nat
  | [] => some 0
  | '.' :: rest => (dots? rest).map (· + 1)
  | '%' :: '2' :: 'e' :: rest | '%' :: '2' :: 'E' :: rest => (dots? rest).map (· + 1)
  | _ => none

/-- Whether a segment stands for this place. -/
def stays (segment : List Char) : Bool := dots? segment == some 1

/-- Whether a segment stands for the place above. -/
def climbs (segment : List Char) : Bool := dots? segment == some 2

/-- Whether characters are a letter and a colon or a bar. -/
def isDrive : List Char → Bool
  | [letter, sign] => letter.isAlpha && (sign == ':' || sign == '|')
  | _ => false

/-- Whether a segment begins with a drive, so that nothing climbs out of it. -/
def isGuarded (segment : List Char) : Bool :=
  isDrive (segment.take 2) && (segment.drop 2).head?.all (· == '\\')

/-- The segments above, given the last first. -/
def leave : List (List Char) → List (List Char)
  | [] => []
  | segment :: above => if isGuarded segment then segment :: above else above

/-- Carries out segments below others, which are given the last first. -/
def walk (above : List (List Char)) : List (List Char) → List (List Char)
  | [] => above.reverse
  | segment :: rest =>
    if climbs segment then
      if rest.isEmpty then ([] :: leave above).reverse else walk (leave above) rest
    else if stays segment then
      if rest.isEmpty then ([] :: above).reverse else walk above rest
    else walk (segment :: above) rest

/-- Carries out the segments of a file on a host. None if the path begins with a drive: then it is
on no host. Where more follows a drive within a segment, that is a segment of its own. -/
def walkFile? (above : List (List Char)) : List (List Char) → Option (List (List Char))
  | [] => some above.reverse
  | segment :: rest =>
    if climbs segment then
      if rest.isEmpty then some ([] :: leave above).reverse else walkFile? (leave above) rest
    else if stays segment then
      if rest.isEmpty then some ([] :: above).reverse else walkFile? above rest
    else if above.isEmpty && isDrive segment then none
    else if above.isEmpty && isDrive (segment.take 2) && segment[1]? == some ':' then
      walkFile? [segment.drop 2, segment.take 2] rest
    else walkFile? (segment :: above) rest

/-- The segments of a file on a host; empty ones in front do not count. -/
def ofFile? (segments : List (List Char)) : Option (List (List Char)) :=
  (walkFile? [] segments).map fun walked =>
    match walked.dropWhile List.isEmpty with
    | [] => [[]]
    | segments => segments

/-- A path as it is written: each segment behind a slash. -/
def text (segments : List (List Char)) : List Char := segments.flatMap ('/' :: ·)

end Path
end Url
end ScriptHost
