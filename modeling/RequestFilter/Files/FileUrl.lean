import RequestFilter.Files.Path
import RequestFilter.Text.Utf8

/-!
# File URLs

A subscription may name a file on this machine by a `file:` URL.

* `FileUrl.percentDecode` undoes percent-encoding;
* `FileUrl.afterHost?` takes slashes and host off the front, `FileUrl.climb` removes the segments
  that stay or lead up;
* `FileUrl.path?` is the path a URL names, `FileUrl.pathOr` falls back to the bare text of one that
  names none.
-/

namespace RequestFilter

namespace FileUrl

/-! ## 1. Characters -/

/-- What a file URL starts with. -/
def scheme : Text := "file:".toList

/-- The text is a URL with the scheme for files. -/
def isFileUrl (url : Text) : Bool := scheme.isPrefixOf url

/-- The bytes of a text, a percent sign with two hexadecimal digits standing for one byte. -/
def percentDecode : Text → Bytes
  | '%' :: a :: b :: rest =>
    match Text.hexDigit? a, Text.hexDigit? b with
    | some high, some low => (16 * high + low).toUInt8 :: percentDecode rest
    | _, _ => Text.toBytes ['%'] ++ percentDecode (a :: b :: rest)
  | c :: rest => Text.toBytes [c] ++ percentDecode rest
  | [] => []

/-- Both slashes separate. -/
def isSlash (c : Char) : Bool := c = '/' || c = '\\'

/-- A letter and a colon or a bar. -/
def isDriveLetter : Text → Bool
  | [letter, mark] => letter.isAlpha && (mark = ':' || mark = '|')
  | _ => false

/-- The text of a URL behind its scheme that matters for the path: control characters and spaces at
    the end are dropped, tabs and line ends everywhere, and query and fragment cut off. -/
def body (url : Text) : Text :=
  let trimmed := ((url.drop scheme.length).reverse.dropWhile (· ≤ ' ')).reverse
  (trimmed.filter fun c => c != '\t' && c != '\n' && c != '\r').takeWhile fun c =>
    c != '?' && c != '#'

/-! ## 2. Host and segments -/

/-- The host names this machine. -/
def isLocalHost (host : Text) : Bool :=
  host.isEmpty ||
    (Text.ofBytesLossy (percentDecode host)).map Char.toLower == "localhost".toList

/-- What stands behind slashes and host; none if the host is another machine. A drive letter in the
    place of a host is part of the path. -/
def afterHost? (body : Text) : Option Text :=
  match body with
  | a :: b :: rest =>
    if isSlash a && isSlash b then
      let host := rest.takeWhile (!isSlash ·)
      if isDriveLetter host then some rest
      else if isLocalHost host then some ((rest.dropWhile (!isSlash ·)).drop 1)
      else none
    else if isSlash a then some (b :: rest)
    else some body
  | [a] => some (if isSlash a then [] else [a])
  | [] => some []

/-- The segment with its percent-encoded dots written out. -/
def plainDots (segment : Text) : Text :=
  match segment with
  | '%' :: '2' :: e :: rest =>
    if e = 'e' || e = 'E' then '.' :: plainDots rest else segment
  | '.' :: rest => '.' :: plainDots rest
  | _ => segment

/-- The segments that remain, last one first, once those that stay are left out and those that lead
    up have taken one with them. A drive letter is never taken, and it is written with a colon where
    it comes first. A last segment that stays or leads up leaves an empty one behind. -/
def climb (above : List Text) : List Text → List Text
  | [] => above
  | segment :: rest =>
    let dots := plainDots segment
    if dots = Path.here || dots = Path.up then
      let left :=
        match above with
        | top :: below => if dots = Path.up && !isDriveLetter top then below else above
        | [] => []
      climb (if rest.isEmpty then [] :: left else left) rest
    else if above.isEmpty && isDriveLetter segment then climb [segment.take 1 ++ [':']] rest
    else climb (segment :: above) rest

/-! ## 3. Paths -/

/-- The segments, without the empty ones in front. -/
def withoutLeadingEmpty : List Text → List Text
  | [] :: next :: rest => withoutLeadingEmpty (next :: rest)
  | segments => segments

/-- A drive letter at the very end is followed by a slash. -/
def closeDrive (bytes : Bytes) : Bytes :=
  match bytes.reverse with
  | mark :: letter :: _ :: _ =>
    if isDriveLetter [Char.ofNat letter.toNat, Char.ofNat mark.toNat] then bytes ++ [0x2F]
    else bytes
  | _ => bytes

/-- The path a file URL names; none if it names another machine. -/
def path? (url : Text) : Option Path :=
  (afterHost? (body url)).map fun rest =>
    let slashes := rest.map fun c => if isSlash c then '/' else c
    let segments := withoutLeadingEmpty (climb [] (Text.splitOn '/' slashes)).reverse
    Text.ofBytesLossy (closeDrive (percentDecode ('/' :: Text.join ['/'] segments)))

/-- A text without all the starts of the given form. -/
def dropAllStarts (start : Text) (t : Text) : Text :=
  if start.isPrefixOf t && !start.isEmpty then dropAllStarts start (t.drop start.length) else t
termination_by t.length
decreasing_by
  rename_i h
  simp only [Bool.and_eq_true, List.isPrefixOf_iff_prefix, Bool.not_eq_true',
    List.isEmpty_eq_false_iff] at h
  have := h.1.length_le
  have := List.length_pos_iff.mpr h.2
  simp only [List.length_drop]
  omega

/-- The path a file URL names, or else what the URL says behind its scheme and slashes. -/
def pathOr (url : Text) : Path :=
  (path? url).getD (dropAllStarts "file://".toList url)

end FileUrl

end RequestFilter
