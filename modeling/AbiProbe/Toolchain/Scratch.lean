import AbiProbe.FileTree

/-! # Scratch directories

A source is compiled in a directory made for it in the work directory and removed afterwards. Each
of making the directory, writing the source into it and removing it may be refused.
-/

namespace AbiProbe

/-- Why there is no scratch directory with a source in it. -/
inductive ScratchFault
  /-- The directory cannot be made. -/
  | unmade (reason : SystemError)
  /-- The directory was made, and the source cannot be written into it. -/
  | unwritten (reason : SystemError)
deriving DecidableEq, Repr

/-- What the system said. -/
def ScratchFault.reason : ScratchFault → SystemError
  | unmade reason | unwritten reason => reason

/-- The scratch directories for sources in a work directory. -/
structure ScratchSpace where
  /-- The path of the directory for a source, or why there is none. -/
  make : (workDir source : String) → Except ScratchFault String
  /-- Removes the directory with everything in it. -/
  remove : (workDir source : String) → Except SystemError Unit

namespace ScratchSpace

/-- The name of the source in a scratch directory. -/
def sourceName : String := "probe.c"

/-- The name of the program in a scratch directory. -/
def programName : String := "probe"

/-- The path of the source in a scratch directory. -/
def sourcePath (path : String) : String := path ++ "/" ++ sourceName

/-- The path of the program in a scratch directory. -/
def programPath (path : String) : String := path ++ "/" ++ programName

/-- Scratch directories that nothing is in the way of, each known by the same path. -/
def free (path : String) : ScratchSpace where
  make _ _ := .ok path
  remove _ _ := .ok ()

/-- The number of bytes in the name of a scratch directory, whose end is made up at random. -/
def nameSize : Nat := "cprobe-".utf8ByteSize + 6

/-- The number of bytes in the path of an entry of a directory. -/
def entrySize (directory : String) (nameSize : Nat) : Nat :=
  if directory.toList.getLast? = some '/' then directory.utf8ByteSize + nameSize
  else directory.utf8ByteSize + 1 + nameSize

/-- Scratch directories on a system that limits the length of a path and nothing else. A work
directory may be given from the current directory; the path by which a scratch directory is told
of says nothing of its length. -/
def limited (current path : String) : ScratchSpace where
  make workDir _ :=
    let workSize :=
      if workDir.toList.head? = some '/' then entrySize workDir nameSize
      else entrySize current (entrySize workDir nameSize)
    if FileTree.pathLimit ≤ workSize then .error (.unmade (.atPath path .nameTooLong))
    else if FileTree.pathLimit ≤ workSize + 1 + sourceName.utf8ByteSize then
      .error (.unwritten .nameTooLong)
    else .ok path
  remove _ _ := .ok ()

/-- In a work directory whose path leaves room for that of a scratch directory and not for that of
a source in it, no source can be written. -/
theorem limited_make_of_long {workDir : String} (current path source : String)
    (absolute : workDir.toList.head? = some '/') (unended : workDir.toList.getLast? ≠ some '/')
    (fits : workDir.utf8ByteSize + 1 + nameSize < FileTree.pathLimit)
    (exceeds : FileTree.pathLimit ≤
      workDir.utf8ByteSize + 1 + nameSize + 1 + sourceName.utf8ByteSize) :
    (limited current path).make workDir source = .error (.unwritten .nameTooLong) := by
  simp only [limited, entrySize, if_pos absolute, if_neg unended]
  rw [if_neg (by omega), if_pos exceeds]

end ScratchSpace

end AbiProbe
