/-! # Octets

The content of a file is a list of octets; what they mean is a matter of the reader.
-/

namespace EditorPlugins

abbrev Octets := List UInt8

end EditorPlugins
