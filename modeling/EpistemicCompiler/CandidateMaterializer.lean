import EpistemicCompiler.ChangeSets
import EpistemicCompiler.PosixPaths

set_option autoImplicit false

/-!
# Writing a candidate tree to disk

`materializeCandidateTree` has path and link rules of its own, next to those that accepted the
change set. A disk is the list of what stands at each resolved path.
-/
namespace EpistemicCompiler.CandidateMaterializer
open JsValues TextEncodings RelativePaths ChangeSetTree ChangeSets PosixPaths

inductive DiskItem where
 | directory
 | file (gitMode:GitMode) (bytes:List UInt8)
 | symlink (target:JsString)
 deriving DecidableEq

abbrev Disk := List (List JsString×DiskItem)

inductive FileSystemError where
 | noParent
 | exists

inductive MaterializeCode where
 | reject (code:RelativePathRejectCode)
 | pathEscape
 | symlinkEscape
 | contentDigestMismatch
 | destNotEmpty

inductive MaterializeError where
 | rejected (code:MaterializeCode) (message:JsString)
 | fileSystem (error:FileSystemError) (names:List JsString)
 | changeSet (error:ChangeSetError)

variable (disk:Disk)

def abort {α:Type} (code:MaterializeCode) (message:JsString) : Except MaterializeError α :=
 .error (.rejected code message)

def abortWhen (condition:Prop) [Decidable condition] (code:MaterializeCode)
    (message:JsString) : Except MaterializeError Unit :=
 if condition then abort code message else .ok ()

/-- A call that makes something new. Full disks and missing permissions are left out. -/
def create (names:List JsString) (item:DiskItem) : Except MaterializeError Disk :=
 if disk.lookup names.dropLast≠some .directory then .error (.fileSystem .noParent names)
 else if (disk.lookup names).isSome then .error (.fileSystem .exists names)
 else .ok ((names,item)::disk)

def mkdir (names:List JsString) : Except MaterializeError Disk :=
 create disk names .directory

/-- A new file has no executable bit. The call would also overwrite an existing file, which the
materialiser never makes it do. -/
def writeFile (names:List JsString) (bytes:List UInt8) : Except MaterializeError Disk :=
 create disk names (.file .regular bytes)

def symlink (target:JsString) (names:List JsString) : Except MaterializeError Disk :=
 create disk names (.symlink target)

def mkdirRecursive (names:List JsString) : Disk :=
 names.inits.foldl
  (fun disk path=>if (disk.lookup path).isSome then disk else (path,.directory)::disk) disk

def readdir (names:List JsString) : List JsString :=
 disk.filterMap fun entry=>
  if entry.1.dropLast=names then entry.1.getLast? else none

section

def isInside (root candidate:List JsString) : Bool :=
 let rel:=relative root candidate
 rel=[] || (!(js "..").isPrefixOf rel && !isAbsolute rel)

def pieces (text:JsString) : List JsString :=
 text.splitOnP fun unit=>unit=slash || unit=backslash

variable (services:Services)

def assertResolvedNotProtected (root dest:List JsString) (path:JsString) :
    Except MaterializeError Unit := do
 let rel:=relative root dest
 abortWhen (rel=[]) .pathEscape (js "path "++path++js " escapes sandbox")
 (pieces rel).forM fun segment=>
  if segment.length=0 then .ok ()
  else abortWhen (caseFoldKey services.unicode segment false=js ".GIT")
   (.reject .pathProtected) (js "path "++path++js " touches protected .git")

def resolveInside (root:List JsString) (path:JsString) :
    Except MaterializeError (List JsString) :=
 match classifyRelativePath services.unicode path false with
 | some code => abort (.reject code) (js "illegal candidate path "++path)
 | none => do
   let dest:=resolve root (segments path)
   abortWhen (!isInside root dest) .pathEscape (js "path "++path++js " escapes sandbox")
   assertResolvedNotProtected services root dest path
   pure dest

def assertEntryDigest (entry:CandidateEntry) : Except MaterializeError Unit :=
 match entry.content with
 | .file _ bytes contentDigest =>
   -- `digestOf` has the body of `sha256Hex`.
   abortWhen (services.sha256Hex bytes≠contentDigest) .contentDigestMismatch
    (js "file "++entry.path++js " digest mismatch")
 | .symlink symlinkTarget contentDigest =>
   abortWhen (services.sha256Hex (utf8 symlinkTarget)≠contentDigest)
    .contentDigestMismatch (js "symlink "++entry.path++js " digest mismatch")
 | .directory | .submodule _ => .ok ()

end

section

def rank : EntryType → ℕ
 | .directory => 0
 | .file => 1
 | .symlink => 2
 | .submodule => 3

def writeLe (left right:CandidateEntry) : Prop :=
 rank left.content.entryType<rank right.content.entryType ∨
  rank left.content.entryType=rank right.content.entryType ∧
   unitsLe left.path right.path=true

instance : DecidableRel writeLe := fun left right=>
 inferInstanceAs (Decidable (rank left.content.entryType<rank right.content.entryType ∨
  rank left.content.entryType=rank right.content.entryType ∧
   unitsLe left.path right.path=true))

structure MaterializeResult where
 materializedTreeDigest : JsString
 writtenPaths : List JsString

variable (services:Services)

def writeEntry (root:List JsString) (disk:Disk) (entry:CandidateEntry)
    (dest:List JsString) : Except MaterializeError Disk :=
 match entry.content with
 | .directory | .submodule _ => mkdir disk dest
 | .file _ bytes _ => writeFile disk dest bytes
 | .symlink symlinkTarget _ => do
   let resolved:=resolve (dirname dest) [symlinkTarget]
   abortWhen (!isInside root resolved) .symlinkEscape
    (js "symlink "++entry.path++js " escapes sandbox")
   assertResolvedNotProtected services root resolved entry.path
   symlink disk symlinkTarget dest

def materializeEntry (root:List JsString) (state:Disk×List JsString)
    (entry:CandidateEntry) : Except MaterializeError (Disk×List JsString) := do
 assertEntryDigest services entry
 let dest ← resolveInside services root entry.path
 let disk ← writeEntry services root state.1 entry dest
 pure (disk,state.2++[entry.path])

def materializeCandidateTree (cwd:AbsolutePath) (disk:Disk) (destRoot:JsString)
    (entries:List CandidateEntry) : Except MaterializeError (Disk×MaterializeResult) := do
 let root:=resolve cwd.names [destRoot]
 let disk:=mkdirRecursive disk root
 abortWhen ((readdir disk root).length > 0) .destNotEmpty (js "candidate destRoot must be empty")
 let (disk,written) ← (entries.insertionSort writeLe).foldlM (materializeEntry services root)
  (disk,[])
 let digest ← (candidateTreeDigest services entries).mapError .changeSet
 pure (disk,⟨digest,written⟩)

end

end EpistemicCompiler.CandidateMaterializer
