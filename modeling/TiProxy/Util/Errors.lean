import Mathlib.Data.List.Basic

/-!
# Error trees: `errors.Is` and `errors.As` over the proxy's wrappers

`lib/util/errors` wraps errors in three types of its own: `WError` (`Wrap`, `Wrapf`:
a cause `cerr` and an underlying `uerr`), `MError` (`Collect`: a cause and the
collected errors) and `Error` (`WithStack`: one error and a stack trace), and the
proxy builds `Warning`s and uses `fmt.Errorf` with `%w`.  Each type has its own
`Is`, `As` and `Unwrap` methods, which the loops of Go's `errors.Is` and `errors.As`
(Go 1.20, `src/errors/wrap.go`) call.

An error value is a tree (`GoError`): its nodes are the wrappers, and its leaves
are errors without `Is`, `As` or `Unwrap` methods of their own, of a type in `τ`.
Every node has the value `ι` that Go's `==` compares it by: its pointer for the
wrappers, the value itself for a leaf.  `isLoop` and `asLoop` are the loops of
`errors.Is` and `errors.As`, with each wrapper's methods inlined; a method that calls
`errors.Is` or `errors.As` again calls the loop, since the target is not nil.

Two lists say what the loops find: `nodes`, every node of the tree, and `primary`,
the nodes the `As` loop visits (the error, then `WError.cerr`, `Error.err`,
`Warning.Err` and the `%w` operands, but neither the children of an `MError` nor a
`WError.uerr`).

**Results.**
* `Is_eq_any_nodes`: `errors.Is(e, s)` for a comparable `s` is whether `s` is a node
  of the tree, or `s` is a `Warning` and the tree has one.
* `As_eq_find?_primary`: `errors.As(e, &target)` finds the first node of `primary`
  of the target's type.
-/

namespace TiProxy
namespace Errors

/-- An error value.  `nil` is Go's nil error. -/
inductive GoError (τ ι : Type) where
  | nil
  /-- an error with no `Is`, `As` or `Unwrap` method, such as `errors.New`'s -/
  | leaf (ty : τ) (id : ι)
  /-- `*WError` -/
  | wError (id : ι) (uerr cerr : GoError τ ι)
  /-- `*MError` -/
  | mError (id : ι) (cerr : GoError τ ι) (uerr : List (GoError τ ι))
  /-- `*Error` -/
  | error (id : ι) (err : GoError τ ι)
  /-- `*Warning` -/
  | warning (id : ι) (err : GoError τ ι)
  /-- `*fmt.wrapError`, from `fmt.Errorf` with one `%w` -/
  | wrapError (id : ι) (err : GoError τ ι)
  /-- `*fmt.wrapErrors`, from `fmt.Errorf` with several `%w` -/
  | wrapErrors (id : ι) (errs : List (GoError τ ι))

/-- The dynamic type of an error, which `errors.As` compares with its target's. -/
inductive ErrType (τ : Type) where
  | leaf (ty : τ)
  | wError
  | mError
  | error
  | warning
  | wrapError
  | wrapErrors
deriving DecidableEq, Repr

namespace GoError

variable {τ ι : Type}

/-- Induction over the error tree, with a hypothesis for every child of a node. -/
@[elab_as_elim, induction_eliminator]
theorem induction
    {motive : GoError τ ι → Prop}
    (nil : motive .nil)
    (leaf : ∀ ty id, motive (.leaf ty id))
    (wError : ∀ id uerr cerr, motive uerr → motive cerr → motive (.wError id uerr cerr))
    (mError : ∀ id cerr uerr, motive cerr → (∀ u ∈ uerr, motive u) →
      motive (.mError id cerr uerr))
    (error : ∀ id err, motive err → motive (.error id err))
    (warning : ∀ id err, motive err → motive (.warning id err))
    (wrapError : ∀ id err, motive err → motive (.wrapError id err))
    (wrapErrors : ∀ id errs, (∀ x ∈ errs, motive x) → motive (.wrapErrors id errs)) :
    ∀ e, motive e
  | .nil => nil
  | .leaf ty id => leaf ty id
  | .wError id uerr cerr =>
      wError id uerr cerr (induction nil leaf wError mError error warning wrapError wrapErrors uerr)
        (induction nil leaf wError mError error warning wrapError wrapErrors cerr)
  | .mError id cerr uerr =>
      mError id cerr uerr (induction nil leaf wError mError error warning wrapError wrapErrors cerr)
        (fun u _ => induction nil leaf wError mError error warning wrapError wrapErrors u)
  | .error id err =>
      error id err (induction nil leaf wError mError error warning wrapError wrapErrors err)
  | .warning id err =>
      warning id err (induction nil leaf wError mError error warning wrapError wrapErrors err)
  | .wrapError id err =>
      wrapError id err (induction nil leaf wError mError error warning wrapError wrapErrors err)
  | .wrapErrors id errs =>
      wrapErrors id errs (fun x _ => induction nil leaf wError mError error warning wrapError
        wrapErrors x)

/-- Go's nil test `err == nil`. -/
def isNil : GoError τ ι → Bool
  | .nil => true
  | _ => false

/-- The value `==` compares the error by; none for nil. -/
def id? : GoError τ ι → Option ι
  | .nil => none
  | .leaf _ id | .wError id _ _ | .mError id _ _ | .error id _ | .warning id _
  | .wrapError id _ | .wrapErrors id _ => some id

/-- The error's dynamic type; none for nil. -/
def type? : GoError τ ι → Option (ErrType τ)
  | .nil => none
  | .leaf ty _ => some (.leaf ty)
  | .wError .. => some .wError
  | .mError .. => some .mError
  | .error .. => some .error
  | .warning .. => some .warning
  | .wrapError .. => some .wrapError
  | .wrapErrors .. => some .wrapErrors

/-- The type assertion `target.(*Warning)` of `Warning.Is`. -/
def isWarning : GoError τ ι → Bool
  | .warning .. => true
  | _ => false

/-- `reflectlite.TypeOf(target).Comparable()`: the wrappers are pointers, and a leaf's
type decides for itself. -/
def isComparable
    (leafComparable : τ → Bool) : GoError τ ι → Bool
  | .leaf ty _ => leafComparable ty
  | _ => true

/-- `errors.Unwrap`: what the error's `Unwrap() error` method returns, and nil for an
error without one.  `Error.Unwrap` is itself `errors.Unwrap(e.err)`. -/
def errorsUnwrap : GoError τ ι → GoError τ ι
  | .wError _ _ cerr => cerr
  | .error _ err => errorsUnwrap err
  | .warning _ err => err
  | .wrapError _ err => err
  | _ => .nil

/-- Every node of the tree, the error first. -/
def nodes : GoError τ ι → List (GoError τ ι)
  | .nil => []
  | e@(.leaf ..) => [e]
  | e@(.wError _ uerr cerr) => e :: (nodes cerr ++ nodes uerr)
  | e@(.mError _ cerr uerr) => e :: (nodes cerr ++ uerr.flatMap nodes)
  | e@(.error _ err) => e :: nodes err
  | e@(.warning _ err) => e :: nodes err
  | e@(.wrapError _ err) => e :: nodes err
  | e@(.wrapErrors _ errs) => e :: errs.flatMap nodes

/-- The nodes on the primary chain, in the order `errors.As` visits them. -/
def primary : GoError τ ι → List (GoError τ ι)
  | .nil => []
  | e@(.leaf ..) => [e]
  | e@(.wError _ _ cerr) => e :: primary cerr
  | e@(.mError ..) => [e]
  | e@(.error _ err) => e :: primary err
  | e@(.warning _ err) => e :: primary err
  | e@(.wrapError _ err) => e :: primary err
  | e@(.wrapErrors _ errs) => e :: errs.flatMap primary

theorem sizeOf_errorsUnwrap_le
    (e : GoError τ ι) :
    sizeOf (errorsUnwrap e) ≤ sizeOf e := by
  induction e <;> simp [errorsUnwrap] <;> omega

section IsLoop

variable [DecidableEq ι] (target : GoError τ ι) (targetComparable : Bool)

/-- The loop `is(err, target, targetComparable)` of `errors.Is`: at each error, `==`
with the target, then its `Is` method, then its `Unwrap`.  `WError.Is` asks both
`cerr` and `uerr`, `MError.Is` its cause and every collected error, `Error.Is` its
`err`, and `Warning.Is` whether the target is a `Warning`.  `MError` and the leaves
have no `Unwrap`; `wrapErrors.Unwrap` returns a list, which the loop walks. -/
def isLoop : GoError τ ι → Bool
  | .nil => false
  | .leaf _ id => targetComparable && target.id? == some id
  | .wError id uerr cerr =>
      (targetComparable && target.id? == some id) || (isLoop cerr || isLoop uerr) || isLoop cerr
  | .mError id cerr uerr =>
      (targetComparable && target.id? == some id) ||
        (isLoop cerr || uerr.attach.any fun u => isLoop u.1)
  | .error id err =>
      (targetComparable && target.id? == some id) || isLoop err || isLoop (errorsUnwrap err)
  | .warning id err =>
      (targetComparable && target.id? == some id) || target.isWarning || isLoop err
  | .wrapError id err => (targetComparable && target.id? == some id) || isLoop err
  | .wrapErrors id errs =>
      (targetComparable && target.id? == some id) || errs.attach.any fun x => isLoop x.1
termination_by e => sizeOf e
decreasing_by
  all_goals simp_wf
  all_goals first
    | omega
    | (have hle := sizeOf_errorsUnwrap_le err; omega)
    | (have hlt := List.sizeOf_lt_of_mem u.2; omega)
    | (have hlt := List.sizeOf_lt_of_mem x.2; omega)

end IsLoop

section AsLoop

variable [DecidableEq τ] (targetType : ErrType τ)

/-- The loop `as(err, target, …)` of `errors.As`: at each error, whether its type is
the target's, then its `As` method, then its `Unwrap`.  Only `Error` has an `As`
method, `errors.As(e.err, target)`.  The result is the error stored in the target. -/
def asLoop : GoError τ ι → Option (GoError τ ι)
  | .nil => none
  | e@(.leaf ..) => if e.type? = some targetType then some e else none
  | e@(.wError _ _ cerr) => if e.type? = some targetType then some e else asLoop cerr
  | e@(.mError ..) => if e.type? = some targetType then some e else none
  | e@(.error _ err) =>
      if e.type? = some targetType then some e else (asLoop err).or (asLoop (errorsUnwrap err))
  | e@(.warning _ err) => if e.type? = some targetType then some e else asLoop err
  | e@(.wrapError _ err) => if e.type? = some targetType then some e else asLoop err
  | e@(.wrapErrors _ errs) =>
      if e.type? = some targetType then some e else errs.attach.findSome? fun x => asLoop x.1
termination_by e => sizeOf e
decreasing_by
  all_goals simp_wf
  all_goals first
    | omega
    | (have hle := sizeOf_errorsUnwrap_le err; omega)
    | (have hlt := List.sizeOf_lt_of_mem x.2; omega)

end AsLoop

end GoError

open GoError

variable {τ ι : Type}

/-- `errors.Is(err, target)`. -/
def Is
    [DecidableEq ι]
    (leafComparable : τ → Bool)
    (err target : GoError τ ι) : Bool :=
  match err, target with
  | .nil, .nil => true
  | .nil, _ => false
  | _, .nil => false
  | _, _ => isLoop target (target.isComparable leafComparable) err

/-- `errors.As(err, &target)` for a target of type `*T`: the error it stores there. -/
def As
    [DecidableEq τ]
    (err : GoError τ ι)
    (targetType : ErrType τ) : Option (GoError τ ι) :=
  asLoop targetType err

/-- `Wrap(cerr, uerr)`, allocated at `id`. -/
def Wrap
    (id : ι)
    (cerr uerr : GoError τ ι) : GoError τ ι :=
  if cerr.isNil then .nil
  else if uerr.isNil then cerr
  else .wError id uerr cerr

/-- `Wrapf(cerr, msg, args...)`, with `uerr` the error `fmt.Errorf(msg, args...)`
returns. -/
def Wrapf
    (id : ι)
    (cerr uerr : GoError τ ι) : GoError τ ι :=
  if cerr.isNil then .nil else .wError id uerr cerr

/-- `Collect(cerr, uerr...)`: the nil errors are dropped. -/
def Collect
    (id : ι)
    (cerr : GoError τ ι)
    (uerr : List (GoError τ ι)) : GoError τ ι :=
  let uerr := uerr.filter fun e => !e.isNil
  if uerr.length = 0 then .nil else .mError id cerr uerr

/-- `WithStack(err)`. -/
def WithStack
    (id : ι)
    (err : GoError τ ι) : GoError τ ι :=
  if err.isNil then .nil else .error id err

/-- `fmt.Errorf(format, args...)` with `wrapped` its `%w` operands: an
`*errors.errorString` without one, a `wrapError` with one and a `wrapErrors`, without
the nil operands, with several. -/
def Errorf
    (id : ι)
    (errorString : τ) : List (GoError τ ι) → GoError τ ι
  | [] => .leaf errorString id
  | [w] => .wrapError id w
  | ws => .wrapErrors id (ws.filter fun e => !e.isNil)

/-- A node's own answer in `errors.Is`: it is the target, or it is a `Warning` and the
target is one. -/
def matchesNode
    [DecidableEq ι]
    (target n : GoError τ ι) : Bool :=
  target.id? == n.id? || (target.isWarning && n.isWarning)

section ListLemmas

variable {α β : Type}

theorem any_attach_eq
    {l : List α}
    {f g : α → Bool}
    (h : ∀ x ∈ l, f x = g x) :
    (l.attach.any fun x => f x.1) = l.any g := by
  rw [Bool.eq_iff_iff, List.any_eq_true, List.any_eq_true]
  constructor
  · rintro ⟨⟨x, hx⟩, -, hf⟩
    exact ⟨x, hx, h x hx ▸ hf⟩
  · rintro ⟨x, hx, hg⟩
    exact ⟨⟨x, hx⟩, List.mem_attach _ _, (h x hx).trans hg⟩

theorem findSome?_attach_eq
    {l : List α}
    {f g : α → Option β}
    (h : ∀ x ∈ l, f x = g x) :
    (l.attach.findSome? fun x => f x.1) = l.findSome? g := by
  induction l with
  | nil => rfl
  | cons a l ih =>
      rw [List.attach_cons, List.findSome?_cons, List.findSome?_map, List.findSome?_cons,
        h a List.mem_cons_self]
      cases g a with
      | some b => rfl
      | none => exact ih fun x hx => h x (List.mem_cons_of_mem a hx)

end ListLemmas

section IsSpec

variable [DecidableEq ι] (target : GoError τ ι)

/-- The loop after `Error.Is` fails never succeeds: `errors.Unwrap(e.err)` is a
part of `e.err` the method already searched. -/
theorem isLoop_of_isLoop_errorsUnwrap
    (targetComparable : Bool)
    (e : GoError τ ι)
    (h : isLoop target targetComparable (errorsUnwrap e) = true) :
    isLoop target targetComparable e = true := by
  induction e with
  | wError id uerr cerr _ _ =>
      rw [isLoop]
      simp only [errorsUnwrap] at h
      simp [h]
  | error id err ih =>
      rw [isLoop, ih h]
      simp
  | warning id err _ =>
      rw [isLoop]
      simp only [errorsUnwrap] at h
      simp [h]
  | wrapError id err _ =>
      rw [isLoop]
      simp only [errorsUnwrap] at h
      simp [h]
  | _ =>
      simp only [errorsUnwrap, isLoop] at h
      cases h

/-- For a comparable target, the `Is` loop asks every node of the tree. -/
theorem isLoop_eq_any_nodes
    (e : GoError τ ι) :
    isLoop target true e = (nodes e).any (matchesNode target) := by
  induction e with
  | nil => simp [isLoop, nodes]
  | leaf ty id => simp [isLoop, nodes, matchesNode, id?, isWarning]
  | wError id uerr cerr ihu ihc =>
      rw [isLoop, ihu, ihc]
      simp only [nodes, List.any_cons, List.any_append, matchesNode, id?, isWarning]
      cases (nodes cerr).any (matchesNode target) <;> simp
  | mError id cerr uerr ihc ihu =>
      rw [isLoop, ihc, any_attach_eq ihu]
      simp [nodes, List.any_append, List.any_flatMap, matchesNode, id?, isWarning]
  | error id err ih =>
      -- the loop after `Error.Is` adds nothing
      have hred : (isLoop target true err || isLoop target true (errorsUnwrap err)) =
          isLoop target true err := by
        cases h : isLoop target true err
        · cases h' : isLoop target true (errorsUnwrap err)
          · rfl
          · exact absurd (isLoop_of_isLoop_errorsUnwrap target true err h') (by simp [h])
        · rfl
      rw [isLoop, Bool.or_assoc, hred, ih]
      simp [nodes, matchesNode, id?, isWarning]
  | warning id err ih =>
      rw [isLoop, ih]
      simp [nodes, matchesNode, id?, isWarning, Bool.or_assoc]
  | wrapError id err ih =>
      rw [isLoop, ih]
      simp [nodes, matchesNode, id?, isWarning]
  | wrapErrors id errs ih =>
      rw [isLoop, any_attach_eq ih]
      simp [nodes, List.any_flatMap, matchesNode, id?, isWarning]

/-- `errors.Is(e, s)` for a comparable `s`: whether `s` is a node of the tree, or a
`Warning` when the tree has one. -/
theorem Is_eq_any_nodes
    (leafComparable : τ → Bool)
    (htarget : target.isNil = false)
    (hcmp : target.isComparable leafComparable = true)
    (e : GoError τ ι) :
    Is leafComparable e target = (nodes e).any (matchesNode target) := by
  cases target with
  | nil => cases htarget
  | _ =>
      cases e with
      | nil => simp [Is, nodes]
      | _ => simp only [Is, hcmp, isLoop_eq_any_nodes]

end IsSpec

section AsSpec

variable [DecidableEq τ] (targetType : ErrType τ)

/-- The loop after `Error.As` fails finds nothing either. -/
theorem asLoop_errorsUnwrap_of_none
    (e : GoError τ ι)
    (h : asLoop targetType e = none) :
    asLoop targetType (errorsUnwrap e) = none := by
  induction e with
  | wError id uerr cerr _ _ =>
      rw [asLoop] at h
      split_ifs at h
      exact h
  | error id err _ =>
      rw [asLoop] at h
      split_ifs at h
      exact (Option.or_eq_none_iff.mp h).2
  | warning id err _ =>
      rw [asLoop] at h
      split_ifs at h
      exact h
  | wrapError id err _ =>
      rw [asLoop] at h
      split_ifs at h
      exact h
  | _ => simp [errorsUnwrap, asLoop]

/-- The search of `find?` at a node of the primary chain. -/
theorem find?_type_cons
    (e : GoError τ ι)
    (l : List (GoError τ ι)) :
    ((e :: l).find? fun n => n.type? == some targetType) =
      if e.type? = some targetType then some e
      else l.find? fun n => n.type? == some targetType := by
  rw [List.find?_cons]
  by_cases h : e.type? = some targetType
  · simp [h]
  · have hbeq : (e.type? == some targetType) = false := by
      simpa using h
    rw [hbeq, if_neg h]

/-- The `As` loop visits the primary chain in order and stops at the first node of
the target's type. -/
theorem asLoop_eq_find?_primary
    (e : GoError τ ι) :
    asLoop targetType e = (primary e).find? fun n => n.type? == some targetType := by
  induction e with
  | nil => simp [asLoop, primary]
  | leaf ty id =>
      rw [asLoop, primary, find?_type_cons]
      rfl
  | wError id uerr cerr _ ihc =>
      rw [asLoop, ihc, primary, find?_type_cons]
  | mError id cerr uerr _ _ =>
      rw [asLoop, primary, find?_type_cons]
      rfl
  | error id err ih =>
      -- the loop after `Error.As` adds nothing
      have hred : ((asLoop targetType err).or (asLoop targetType (errorsUnwrap err))) =
          asLoop targetType err := by
        cases h : asLoop targetType err with
        | none => simpa using asLoop_errorsUnwrap_of_none targetType err h
        | some x => rfl
      rw [asLoop, hred, ih, primary, find?_type_cons]
  | warning id err ih =>
      rw [asLoop, ih, primary, find?_type_cons]
  | wrapError id err ih =>
      rw [asLoop, ih, primary, find?_type_cons]
  | wrapErrors id errs ih =>
      rw [asLoop, findSome?_attach_eq ih, primary, find?_type_cons, List.find?_flatMap]

/-- `errors.As(e, &target)` stores the first node of the primary chain of the target's
type. -/
theorem As_eq_find?_primary
    (e : GoError τ ι) :
    As e targetType = (primary e).find? fun n => n.type? == some targetType :=
  asLoop_eq_find?_primary targetType e

end AsSpec

end Errors
end TiProxy
