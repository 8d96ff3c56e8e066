import CardQuery.Digest.Sha256
import CardQuery.Markup
import CardQuery.Text.Blank
import CardQuery.Text.Split

/-!
The stored forms of a note's texts: one blob for all field values, one padded text for all tags,
and the checksum of a value.
-/

namespace CardQuery

namespace Fields

def separator : Char := '\x1f'

def split (blob : String) : List String :=
  (Text.splitOn separator blob.toList).map String.ofList

def join (fields : List String) : String :=
  String.ofList (Text.joinWith separator (fields.map String.toList))

def checksum (value : String) : Int :=
  (Sha256.digest ((Markup.stripKeepingImages value).toList.flatMap String.utf8EncodeChar)).a.toNat

end Fields

namespace Tags

def canonical (tags : List String) : String :=
  let tags := (tags.map fun t => Text.trim t.toList).filter (!·.isEmpty)
  if tags.isEmpty then "" else String.ofList (' ' :: Text.joinWith ' ' tags ++ [' '])

end Tags

end CardQuery
