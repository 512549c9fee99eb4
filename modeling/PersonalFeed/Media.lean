import PersonalFeed.Text.Basic

/-!
The media store. A signed address grants reading one stored medium for a while; keys of a certain
start are refused.
-/

set_option autoImplicit false

namespace PersonalFeed

/-- Signs the key of a stored medium; the answer is a temporary address, or none if it fails. -/
abbrev MediaSigner := Text → Option Text

structure MediaStore where
  root : Text
  bucket : Text
  /-- Seconds that an address is valid. -/
  lifetime : Int
  /-- How the refused keys start. -/
  refusedStart : Text

/-- The signed address of a medium; the empty key and refused keys have none. -/
def MediaStore.sign (store : MediaStore) : MediaSigner := fun key =>
  if key.isEmpty ∨ key.startsWith store.refusedStart then none
  else
    some (store.root ++ "/" ++ store.bucket ++ "/" ++ key ++ "?op=get_object&ttl=" ++
      toString store.lifetime)

end PersonalFeed
