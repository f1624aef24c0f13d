import RingCache.Text.Percent

/-!
# Paths of the peer endpoint

A path under the base path names a group and a key: the group up to the first
slash, the key after it, both percent-encoded and neither empty. The key may
hold slashes. `PeerPath.split` reads a path, and its refusals say which part of
that rule is broken.
-/

namespace RingCache.PeerPath

/-- Why a path names no group and key. -/
inductive Fault where
  /-- The path is not under the base path. -/
  | unexpected (path : String)
  /-- There is no group, or no key, or no slash between them. -/
  | incomplete (base path : String)
  /-- The group or the key is no text. -/
  | badEscape (path : String) (fault : Utf8.Fault)
  deriving Repr, DecidableEq

/-- The wording of a fault. -/
def Fault.message : Fault -> String
  | .unexpected path => "unexpected path: " ++ path
  | .incomplete base path => "expected " ++ base ++ "<group>/<key>, got " ++ path
  | .badEscape path fault => "bad escape in " ++ path ++ ": " ++ fault.message

/-- The parts before and after the first slash, neither of them empty. -/
def segments? (rest : List Char) : Option (List Char × List Char) :=
  let group := rest.takeWhile (· != '/')
  match rest.dropWhile (· != '/') with
  | [] => none
  | _ :: key => if group.isEmpty || key.isEmpty then none else some (group, key)

/-- The text that a segment stands for. -/
def decode (path : String) (segment : List Char) : Except Fault String :=
  match Percent.decode (String.ofList segment) with
  | .ok text => .ok text
  | .error fault => .error (.badEscape path fault)

/-- The group and the key that a path under a base path names. -/
def split (base path : String) : Except Fault (String × String) :=
  match base.toList.isPrefixOf? path.toList with
  | none => .error (.unexpected path)
  | some rest =>
      match segments? rest with
      | none => .error (.incomplete base path)
      | some (group, key) =>
          match decode path group, decode path key with
          | .ok group, .ok key => .ok (group, key)
          | .error fault, _ => .error fault
          | .ok _, .error fault => .error fault

end RingCache.PeerPath
