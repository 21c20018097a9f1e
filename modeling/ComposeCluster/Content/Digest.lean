import ComposeCluster.Digest.ShortHash

/-!
# Content digests

The digest of an object's data. It is taken of one text for all entries, by ascending key, with an
equals sign behind each key and a zero byte behind each value (`digestInput`), so it does not
depend on the order in which the entries come.
-/

set_option autoImplicit false

namespace ComposeCluster.Content

/-- The length of digests. -/
def digestLength : Nat := 6

/-- An entry as it is digested. -/
def entryBytes (entry : String × Bytes) : Bytes :=
  Text.utf8 entry.1 ++ 0x3D :: (entry.2 ++ [0])

/-- Entries by ascending key; those with one key keep their order. -/
def sortedByKey (entries : List (String × Bytes)) : List (String × Bytes) :=
  entries.mergeSort fun a b => (compare a.1 b.1).isLE

/-- What the digest of entries is taken of. -/
def digestInput (entries : List (String × Bytes)) : Bytes :=
  (sortedByKey entries).flatMap entryBytes

/-- The digest of entries. -/
def digest (entries : List (String × Bytes)) : String :=
  shortHashOf (digestInput entries) digestLength

/-- The digest of texts. -/
def textDigest (entries : List (String × String)) : String :=
  digest (entries.map fun entry => (entry.1, Text.utf8 entry.2))

end ComposeCluster.Content
