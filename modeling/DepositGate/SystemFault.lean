/-!
# System faults

Failures of the operating system, by their numbers, kinds and wordings, and those of what does not even
get to it.
-/

namespace DepositGate

structure SystemFault where
  /-- The number of the failure, none if the system has not been asked. -/
  code : Option Nat
  kind : String
  message : String
deriving DecidableEq, Repr

namespace SystemFault

def notFound : SystemFault := ⟨some 2, "NotFound", "No such file or directory"⟩

def permissionDenied : SystemFault := ⟨some 13, "PermissionDenied", "Permission denied"⟩

def fileExists : SystemFault := ⟨some 17, "AlreadyExists", "File exists"⟩

def notADirectory : SystemFault := ⟨some 20, "NotADirectory", "Not a directory"⟩

def isADirectory : SystemFault := ⟨some 21, "IsADirectory", "Is a directory"⟩

def nameTooLong : SystemFault := ⟨some 36, "InvalidFilename", "File name too long"⟩

def notImplemented : SystemFault := ⟨some 38, "Unsupported", "Function not implemented"⟩

def addrInUse : SystemFault := ⟨some 98, "AddrInUse", "Address already in use"⟩

def addrNotAvailable : SystemFault :=
  ⟨some 99, "AddrNotAvailable", "Cannot assign requested address"⟩

/-- A name has a character that the system takes for the end. -/
def unusableName : SystemFault :=
  ⟨none, "InvalidInput", "file name contained an unexpected NUL byte"⟩

def notText : SystemFault := ⟨none, "InvalidData", "stream did not contain valid UTF-8"⟩

/-- The wording of a failure, with its number if it has one. -/
def describe (f : SystemFault) : String :=
  match f.code with
  | some code => f.message ++ s!" (os error {code})"
  | none => f.message

end SystemFault

end DepositGate
