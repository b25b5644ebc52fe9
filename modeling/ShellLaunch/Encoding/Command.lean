import ShellLaunch.Encoding.Fault
import ShellLaunch.Encoding.Utf16

/-!
# Encoded commands

A command can be given as the base64 text of its UTF-16 bytes, so that no shell on the
way touches its quotes and blanks.
-/

namespace ShellLaunch.Encoding

def encodeCommand (command : String) : String :=
  let text := Base64.encode (Utf16.toBytes (Utf16.encode command.toList))
  String.ofList (text.map fun byte => Char.ofNat byte.toNat)

/-- The command that an encoded value stands for. -/
def decodeCommand (value : String) : Except Fault String :=
  match Base64.decode value.toUTF8.data.toList with
  | .error fault => .error (.base64 fault)
  | .ok bytes =>
    if bytes.length % 2 ≠ 0 then .error (.oddLength bytes.length)
    else
      match Utf16.decode (Utf16.ofBytes bytes) with
      | none => .error .unpairedSurrogate
      | some command => .ok (String.ofList command)

end ShellLaunch.Encoding
