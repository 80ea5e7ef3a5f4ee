import RequestFilter.Text.Basic

/-!
# Signatures

A signature is a stretch of eight bytes. A rule is filed under signatures of its own text, and a
request is looked up by the signatures of its URL.

* `Signature.size` is the length in bytes;
* `Signature.windows` lists the signatures of a text, last one first.
-/

namespace RequestFilter

namespace Signature

/-- The length of a signature in bytes. -/
def size : Nat := 8

/-- The stretches of a text that are exactly one signature long, first one first. Those that would
    cut a character in two are left out. -/
def ascending : Text → List Text
  | [] => []
  | c :: rest => (Text.takeBytes size (c :: rest)).toList ++ ascending rest

/-- The signatures of a text, from its end to its start. -/
def windows (t : Text) : List Text := (ascending t).reverse

end Signature

end RequestFilter
