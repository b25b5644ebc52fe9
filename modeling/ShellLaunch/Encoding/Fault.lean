import ShellLaunch.Encoding.Base64

/-!
# Why an encoded value is refused
-/

namespace ShellLaunch.Encoding

/-- Why a text is not a serialized argument list. -/
inductive ListFault where
  | missingRoot
  | missingList
  | unterminatedList
  | unsupportedItem (tag : String)
  | unterminatedItem
  | unterminatedEntity (text : String)
  | unknownEntity (name : String)
  deriving DecidableEq

def ListFault.message : ListFault → String
  | .missingRoot => "missing <Objs> root"
  | .missingList => "missing <LST> element"
  | .unterminatedList => "unterminated <LST> element"
  | .unsupportedItem tag => s!"unsupported list item '{tag}'"
  | .unterminatedItem => "unterminated <S> element"
  | .unterminatedEntity text => s!"unterminated entity in '{text}'"
  | .unknownEntity name => s!"unknown entity '&{name};'"

/-- Why an encoded command or argument list is refused. -/
inductive Fault where
  | base64 (fault : Base64.Fault)
  | oddLength (length : Nat)
  | unpairedSurrogate
  | list (fault : ListFault)
  deriving DecidableEq

def Fault.message : Fault → String
  | .base64 fault => s!"invalid base64: {fault.message}"
  | .oddLength length =>
    s!"decoded payload has odd length {length}, expected UTF-16 code units"
  | .unpairedSurrogate => "decoded payload is not valid UTF-16"
  | .list fault => s!"malformed serialized argument list: {fault.message}"

end ShellLaunch.Encoding
