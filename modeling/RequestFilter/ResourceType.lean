import RequestFilter.Text.Basic

/-!
# Resource types

What a page wants to load. `ResourceType.ofName` reads the name a browser gives a request and
`ResourceType.name` writes the canonical one.
-/

namespace RequestFilter

/-- The kind of resource a request asks for. A `document` is a top-level navigation. -/
inductive ResourceType where
  | other
  | script
  | image
  | stylesheet
  | object
  | document
  | subdocument
  | refresh
  | xbl
  | ping
  | xmlHttpRequest
  | objectSubrequest
  deriving Repr, DecidableEq, Inhabited

namespace ResourceType

/-- The names that are understood, in lower case, with what they mean. -/
def names : List (Text × ResourceType) :=
  [("script".toList, .script),
   ("image".toList, .image), ("img".toList, .image),
   ("stylesheet".toList, .stylesheet), ("css".toList, .stylesheet),
   ("object".toList, .object),
   ("document".toList, .document), ("main_frame".toList, .document),
   ("subdocument".toList, .subdocument), ("sub_frame".toList, .subdocument),
   ("refresh".toList, .refresh),
   ("xbl".toList, .xbl),
   ("ping".toList, .ping),
   ("xmlhttprequest".toList, .xmlHttpRequest), ("xhr".toList, .xmlHttpRequest),
   ("object_subrequest".toList, .objectSubrequest),
   ("object-subrequest".toList, .objectSubrequest)]

/-- Reads a request type name in any case of its ASCII letters; an unknown name is `other`. -/
def ofName (name : Text) : ResourceType :=
  (names.lookup (name.map Char.toLower)).getD .other

/-- The canonical name. -/
def name : ResourceType → Text
  | .other => "other".toList
  | .script => "script".toList
  | .image => "image".toList
  | .stylesheet => "stylesheet".toList
  | .object => "object".toList
  | .document => "document".toList
  | .subdocument => "subdocument".toList
  | .refresh => "refresh".toList
  | .xbl => "xbl".toList
  | .ping => "ping".toList
  | .xmlHttpRequest => "xmlhttprequest".toList
  | .objectSubrequest => "object_subrequest".toList

/-- The canonical name is read back. -/
theorem ofName_name (t : ResourceType) : ofName t.name = t := by
  cases t <;> decide

end ResourceType

end RequestFilter
