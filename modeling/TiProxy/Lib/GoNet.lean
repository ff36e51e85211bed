import Mathlib.Data.List.Basic

/-!
# Go's `net.SplitHostPort`

Go's standard library function splitting `"host:port"`, `"[host]:port"` (and the
`%zone` forms, which need no special case) into host and port.  It is written
after the documented algorithm: the port starts after the last colon; a host in
brackets must end right before that colon; a host without brackets contains no
colon; no stray bracket may follow.  Any violation is an error, returned here as
`none`.
-/

namespace GoNet

/-- The index of the first `c` in `s`, if any. -/
def indexOf? (s : List Char) (c : Char) : Option Nat :=
  s.findIdx? (· == c)

/-- The index of the last `c` in `s`, if any. -/
def lastIndexOf? (s : List Char) (c : Char) : Option Nat :=
  (indexOf? s.reverse c).map (fun k => s.length - 1 - k)

/-- `net.SplitHostPort`: `some (host, port)`, or `none` on an address error. -/
def SplitHostPort (hostport : String) : Option (String × String) :=
  let s := hostport.toList
  match lastIndexOf? s ':' with
  | none => none
  | some i =>
      let bracketed : Option (List Char × Nat × Nat) :=
        if s.head? = some '[' then
          match indexOf? s ']' with
          | none => none
          | some e => if e + 1 = i then some ((s.take e).drop 1, 1, e + 1) else none
        else
          let host := s.take i
          if ':' ∈ host then none else some (host, 0, 0)
      match bracketed with
      | none => none
      | some (host, j, k) =>
          if '[' ∈ s.drop j then none
          else if ']' ∈ s.drop k then none
          else some (String.ofList host, String.ofList (s.drop (i + 1)))

example : SplitHostPort "127.0.0.1:4000" = some ("127.0.0.1", "4000") := by decide

example : SplitHostPort "[::1]:4000" = some ("::1", "4000") := by decide

example : SplitHostPort "tidb-0" = none := by decide

end GoNet
