/-!
# Byte strings

Payloads, file contents and memory are byte strings. They are compared byte by byte.
-/

namespace InstantReplay

instance decidableEqBytes : DecidableEq ByteArray := ByteArray.instDecidableEq

end InstantReplay
