import Shopfloor.Rest.Route
import Shopfloor.Text.Percent
import Shopfloor.Text.Split
/-!
# Servers and Clients

Two frameworks that serve the table of paths.

A `server` decodes a path when it arrives. A fixed path may end in one line
break, and an id is any text without slashes that is not empty.

A `client` within the process asks a server and changes a path on its way: what
follows a question mark or a number sign is no part of it, nor is a host in
front of it, and names of one or two dots are followed while it still travels
encoded. It also decodes the path when it leaves. So with a client an encoded
percent sign may begin an encoding of its own, which it does not with the server
alone.

## Main definitions

* `Rest.Framework.server`: Paths are decoded once.
* `Rest.settle`, `Rest.Framework.client`: They are set right and decoded before that.
-/

namespace Shopfloor

namespace Rest

/-- A text without one line break at its end. -/
def withoutLineBreak (s : String) : String :=
  match s.toList.reverse with
  | '\n' :: cs => String.ofList cs.reverse
  | _ => s

/-- What stands behind a place, if there is something and no slash in it. -/
def behind? (place path : String) : Option String :=
  match place.toList.isPrefixOf? path.toList with
  | some id => if id ≠ [] ∧ '/' ∉ id then some (String.ofList id) else none
  | none => none

/-- Follows the names of a path: a dot stays where it is, and two dots lead back, but never out. -/
def follow (way : List String) (name : String) : List String :=
  if name = "." then way
  else if name = ".." then if way = [""] then way else way.dropLast
  else way ++ [name]

/-- Characters of a path without a host in front of them. -/
def withoutHost : List Char → List Char
  | '/' :: '/' :: cs => cs.dropWhile (· != '/')
  | cs => cs

/-- A path as it is sent by a client, still encoded. -/
def settle (path : String) : String :=
  let bare := withoutHost (path.toList.takeWhile fun c => c != '?' && c != '#')
  let names := Text.split '/' (String.ofList ('/' :: bare.dropWhile (· = '/')))
  "/".intercalate (names.foldl follow [])

namespace Framework

/-- Paths are decoded when they arrive. -/
def server : Framework where
  arrived := Percent.decode
  isAt fixed path := withoutLineBreak path == fixed
  idBehind? := behind?

/-- Paths are set right and decoded when they leave, and then they arrive at a server. -/
def client : Framework :=
  { server with arrived := fun path => server.arrived (Percent.decode (settle path)) }

end Framework

end Rest

end Shopfloor
