import Mathlib.Data.String.Basic
import RemoteDebugger.Text.Utf8

/-!
# The order of texts

Texts are ordered by their characters, and that is the order of their bytes: of two different
characters, the bytes of one are not the beginning of the other's, and they are in the order of
the characters.
-/

namespace RemoteDebugger.Utf8

end RemoteDebugger.Utf8
