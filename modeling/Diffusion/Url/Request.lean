import Diffusion.Url

/-!
URLs of blobs, and which URLs a request can be sent to.
-/

namespace Diffusion.Url

/-- The text of the URL of a blob in a container. What follows the container's question mark stays
last. -/
def ofBlob (container blob : String) : String :=
  let (base, query) := cutAt '?' container.toList
  let stem := String.ofList (base.reverse.dropWhile (· = '/')).reverse
  stem ++ "/" ++ blob ++
    (match query with
      | some query => "?" ++ String.ofList query
      | none => "")

/-- The URL without its user, who is named in the header of a request instead. A name that is no
text cannot be moved there, and neither can a password alone that is none. -/
def withoutUser (url : Url) : Url :=
  let isText (s : String) : Bool := (unescape? s.toList).isSome
  if isText url.user && (!url.user.isEmpty || url.password.any isText) then
    { url with user := "", password := none }
  else url

/-- Schemes that requests can be sent by. -/
def requestSchemes : List String := ["http", "https"]

/-- The most bytes that the URL of a request may have. -/
def mostRequestBytes : Nat := 65534

/-- Whether a request can be sent to a URL: the host has none of the signs that its line in a
request must not have. -/
def isRequest (url : Url) : Bool :=
  requestSchemes.contains url.scheme && url.text.utf8ByteSize ≤ mostRequestBytes &&
    url.host.all fun host => !host.toList.any "\"`\x7b\x7d".toList.contains

/-- What can be done with the text of a URL. -/
inductive Standing where
  /-- It is no URL. -/
  | malformed
  /-- It is a URL that no request can be sent to, in its normal form. -/
  | unsendable (text : String)
  /-- It names a host and a way to speak to it. -/
  | sendable
deriving DecidableEq, Repr

/-- Takes a text for a URL. -/
def standing (text : String) : Standing :=
  match parse? text with
  | none => .malformed
  | some url =>
    let target := if url.hasHost then url.withoutUser else url
    if target.hasHost && target.isRequest then .sendable else .unsendable target.text

end Diffusion.Url
