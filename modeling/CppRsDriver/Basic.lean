import CppRsDriver.Errors.Code

/-! Addresses and C strings, and calls with their codes, shared by all parts of the driver. -/
namespace CppRsDriver

/-- An IPv4 or IPv6 address. -/
inductive IpAddr where
  | v4 (addr : BitVec 32)
  | v6 (addr : BitVec 128)
  deriving DecidableEq, Repr

inductive PtrToStrError where
  | nullPointer
  | invalidUtf8
  deriving DecidableEq, Repr

/-- A string argument, as `to_str` reads it at the caller's pointer. -/
abbrev CassStr := Except PtrToStrError String

/-- The calls that were not turned away, in order. -/
def accepted {A : Type} (calls : List A) (codes : List CassError) : List A :=
  ((calls.zip codes).filter (fun call => call.2 = .ok)).map Prod.fst

theorem accepted_ok {A : Type} (a : A) (calls : List A) (codes : List CassError) :
    accepted (a :: calls) (.ok :: codes) = a :: accepted calls codes := rfl

theorem accepted_refused {A : Type} (a : A) (calls : List A) (codes : List CassError)
    {code : CassError} (refused : code ≠ .ok) :
    accepted (a :: calls) (code :: codes) = accepted calls codes := by
  simp only [accepted, List.zip_cons_cons, List.filter_cons, refused, decide_false]
  rfl

end CppRsDriver
