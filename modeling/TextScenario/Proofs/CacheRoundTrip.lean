import TextScenario.Proofs.CacheSaving
import TextScenario.Proofs.JsonGrammar

/-! Saving a cache and loading it again. A saved cache is loaded as it was wherever its path does not pass
a link that the file takes the place of; what is no JSON is loaded as the empty cache. -/

namespace TextScenario.ChangeCache

open FileSystem

variable {cache : ChangeCache} {files after : FileSystem} {path : String} {bytes : ByteArray}

private theorem ofBytes?_document {read : ChangeCache} (found : ofBytes? bytes = some read) :
    Json.IsDocument bytes := by
  obtain ⟨json, read, -⟩ := Option.bind_eq_some_iff.mp found
  exact Json.readWith?_element Json.written_grammatical read

private theorem load_malformed (read : files.readBytes path = .ok bytes)
    (malformed : ¬ Json.IsDocument bytes) : load files path = {} := by
  have unread : ofBytes? bytes = none := by
    cases found : ofBytes? bytes with
    | none => rfl
    | some cache => exact absurd (ofBytes?_document found) malformed
  rw [load, read]
  dsimp only
  rw [unread, Option.getD_none]

/-- The temporary file is no link once the directory of the cache file is there. -/
def Unlinked (files : FileSystem) (path : String) : Prop :=
  ∀ old, (ready files path).locate (temporaryPath path) false = .ok old →
    ∀ target, entry? (ready files path) old ≠ some (.link target)

/-- The path does not pass the place of the cache file before it ends there. -/
def Direct (files : FileSystem) (path : String) : Prop :=
  ∀ new, (ready files path).locate path false = .ok new → new ∉ (ready files path).passed path

def oddCache : ChangeCache :=
  { files := [("\"\\/\u0001\n", "é\u2028𝄞"), ("a", "")] }

/-- A link in the place of the cache file leads to the directory that the cache file is in. -/
def throughLink : Except FileFailure Unit × FileSystem :=
  oddCache.save { entries := [(["l"], .link ".")] } "l/l"

/-- A path that a new directory completes, with a link to the cache file beside the cache file. -/
def linkedBeyond : Except FileFailure Unit × FileSystem :=
  oddCache.save { entries := [(["c"], .file (ByteArray.mk #[1])), (["c.tmp"], .link "c")] } "a/../c"

end TextScenario.ChangeCache
