import TiProxy.Util.Errors

/-!
# Classifying errors: `ErrToClient` and `Error2Source`

`pkg/proxy/backend/error.go` answers two questions about an error by testing it
against sentinels in a fixed order: which error to send to the client
(`ErrToClient`), and where the error comes from (`Error2Source`).  The tests are
`errors.Is` against sentinels and `IsMySQLError`, an `errors.As` for a
`*mysql.MyError`; `IsDisconnectError` (`pkg/proxy/net/error.go`) is a list of
`errors.Is` tests too.

The errors here are trees over the leaf types the proxy meets, compared by the
sentinels' names and by any other value.  The leaves are errors without `Is`, `As` or
`Unwrap` methods.  `syscall.Errno` has an `Is` method, but it answers only for the
`oserror` sentinels, which none of these tests asks for.

**Results.**
* `errorTree_classification`: `errors.Is` is whether the sentinel is a node of the
  tree, `errors.As` finds the first node of the target's type on the primary chain,
  and so both functions answer by the first case, in their order, that has one of its
  sentinels in the tree (`errToClientByNodes`, `error2SourceByNodes`).
-/

namespace TiProxy
namespace Backend

open Errors GoError

/-- The types of the leaves: those of the sentinels and of `*mysql.MyError`, and any
other, with whether it is comparable. -/
inductive LeafType where
  /-- `*errors.errorString`, from `errors.New` -/
  | errorString
  /-- `syscall.Errno` -/
  | errno
  /-- `*mysql.MyError` -/
  | myError
  /-- `*poll.DeadlineExceededError`, the type of `os.ErrDeadlineExceeded` -/
  | deadlineExceededErrorPtr
  /-- `context.deadlineExceededError` -/
  | deadlineExceededError
  | other (n : Nat) (comparable : Bool)
deriving DecidableEq, Repr

/-- `reflectlite.TypeOf(target).Comparable()` for a leaf type. -/
def LeafType.comparable : LeafType → Bool
  | .other _ c => c
  | _ => true

/-- The values errors are compared by: the sentinels, by name, and any other value. -/
inductive ErrValue where
  | errClientConn
  | errBackendConn
  | errClientCap
  | errClientHandshake
  | errClientAuthFail
  | errProxyErr
  | errProxyNoBackend
  | errProxyNoTLS
  | errBackendCap
  | errBackendHandshake
  | errBackendNoTLS
  | errBackendPPV2
  | errInvalidSequence
  | errMalformPacket
  | canceled
  | eof
  | epipe
  | econnreset
  | econnaborted
  | etimedout
  | errDeadlineExceeded
  | deadlineExceeded
  | other (n : Nat)
deriving DecidableEq, Repr

/-- An error the proxy classifies. -/
abbrev ProxyError := GoError LeafType ErrValue

/-- `ErrClientConn`. -/
def ErrClientConn : ProxyError := .leaf .errorString .errClientConn

/-- `ErrBackendConn`. -/
def ErrBackendConn : ProxyError := .leaf .errorString .errBackendConn

/-- `ErrClientCap`. -/
def ErrClientCap : ProxyError := .leaf .errorString .errClientCap

/-- `ErrClientHandshake`. -/
def ErrClientHandshake : ProxyError := .leaf .errorString .errClientHandshake

/-- `ErrClientAuthFail`. -/
def ErrClientAuthFail : ProxyError := .leaf .errorString .errClientAuthFail

/-- `ErrProxyErr`. -/
def ErrProxyErr : ProxyError := .leaf .errorString .errProxyErr

/-- `ErrProxyNoBackend`. -/
def ErrProxyNoBackend : ProxyError := .leaf .errorString .errProxyNoBackend

/-- `ErrProxyNoTLS`. -/
def ErrProxyNoTLS : ProxyError := .leaf .errorString .errProxyNoTLS

/-- `ErrBackendCap`. -/
def ErrBackendCap : ProxyError := .leaf .errorString .errBackendCap

/-- `ErrBackendHandshake`. -/
def ErrBackendHandshake : ProxyError := .leaf .errorString .errBackendHandshake

/-- `ErrBackendNoTLS`. -/
def ErrBackendNoTLS : ProxyError := .leaf .errorString .errBackendNoTLS

/-- `ErrBackendPPV2`. -/
def ErrBackendPPV2 : ProxyError := .leaf .errorString .errBackendPPV2

/-- `pnet.ErrInvalidSequence`. -/
def ErrInvalidSequence : ProxyError := .leaf .errorString .errInvalidSequence

/-- `mysql.ErrMalformPacket`. -/
def ErrMalformPacket : ProxyError := .leaf .errorString .errMalformPacket

/-- `context.Canceled`. -/
def Canceled : ProxyError := .leaf .errorString .canceled

/-- `io.EOF`. -/
def EOF : ProxyError := .leaf .errorString .eof

/-- `syscall.EPIPE`. -/
def EPIPE : ProxyError := .leaf .errno .epipe

/-- `syscall.ECONNRESET`. -/
def ECONNRESET : ProxyError := .leaf .errno .econnreset

/-- `syscall.ECONNABORTED`. -/
def ECONNABORTED : ProxyError := .leaf .errno .econnaborted

/-- `syscall.ETIMEDOUT`. -/
def ETIMEDOUT : ProxyError := .leaf .errno .etimedout

/-- `os.ErrDeadlineExceeded`. -/
def ErrDeadlineExceeded : ProxyError := .leaf .deadlineExceededErrorPtr .errDeadlineExceeded

/-- `context.DeadlineExceeded`. -/
def DeadlineExceeded : ProxyError := .leaf .deadlineExceededError .deadlineExceeded

/-- `errors.Is` on the proxy's errors. -/
def IsErr
    (err target : ProxyError) : Bool :=
  Errors.Is LeafType.comparable err target

/-- `pnet.IsMySQLError`: `errors.As(err, &myerr)` for a `*mysql.MyError`. -/
def IsMySQLError
    (err : ProxyError) : Bool :=
  (As err (.leaf .myError)).isSome

/-- `pnet.IsDisconnectError`. -/
def IsDisconnectError
    (err : ProxyError) : Bool :=
  IsErr err EOF || IsErr err EPIPE || IsErr err ECONNRESET || IsErr err ECONNABORTED ||
    IsErr err ETIMEDOUT || IsErr err ErrDeadlineExceeded || IsErr err DeadlineExceeded

/-- `ErrToClient`: the error to send to the client; nil for none. -/
def ErrToClient
    (err : ProxyError) : ProxyError :=
  if IsMySQLError err then .nil
  else if IsErr err ErrProxyNoBackend then ErrProxyNoBackend
  else if IsErr err ErrProxyNoTLS then ErrProxyNoTLS
  else if IsErr err ErrBackendCap then ErrBackendCap
  else if IsErr err ErrBackendHandshake then ErrBackendHandshake
  else if IsErr err ErrBackendNoTLS then ErrBackendNoTLS
  else if IsErr err ErrBackendPPV2 then ErrBackendPPV2
  else if IsErr err ErrProxyErr then errorsUnwrap err
  else .nil

/-- `ErrorSource`. -/
inductive ErrorSource where
  | srcNone
  | srcClientNetwork
  | srcClientHandshake
  | srcClientAuthFail
  | srcClientSQLErr
  | srcProxyQuit
  | srcProxyMalformed
  | srcProxyNoBackend
  | srcProxyErr
  | srcBackendNetwork
  | srcBackendHandshake
deriving DecidableEq, Repr

/-- `Error2Source`. -/
def Error2Source
    (err : ProxyError) : ErrorSource :=
  if err.isNil then .srcNone
  else if IsDisconnectError err && IsErr err ErrClientConn then .srcClientNetwork
  else if IsDisconnectError err && IsErr err ErrBackendConn then .srcBackendNetwork
  else if IsErr err ErrInvalidSequence || IsErr err ErrMalformPacket then .srcProxyMalformed
  else if IsErr err ErrClientHandshake || IsErr err ErrClientCap then .srcClientHandshake
  else if IsErr err ErrClientAuthFail then .srcClientAuthFail
  else if IsErr err ErrBackendHandshake || IsErr err ErrBackendCap || IsErr err ErrBackendNoTLS ||
      IsErr err ErrBackendPPV2 then .srcBackendHandshake
  else if IsErr err ErrProxyNoBackend then .srcProxyNoBackend
  else if IsMySQLError err then .srcClientSQLErr
  else if IsErr err Canceled then .srcProxyQuit
  else .srcProxyErr

/-! ### The classification by the nodes of the tree -/

/-- The answer of the first case whose test holds, or the default. -/
def firstCase
    {α β : Type}
    (test : α → Bool)
    (default : β) : List (α × β) → β
  | [] => default
  | c :: cs => if test c.1 then c.2 else firstCase test default cs

/-- A node of the tree has the sentinel's value. -/
def hasNode
    (e s : ProxyError) : Bool :=
  (nodes e).any fun n => s.id? == n.id?

/-- A `*mysql.MyError` is on the primary chain. -/
def mysqlOnPrimary
    (e : ProxyError) : Bool :=
  (primary e).any fun n => n.type? == some (.leaf .myError)

/-- The sentinels of `IsDisconnectError`. -/
def disconnectSentinels : List ProxyError :=
  [EOF, EPIPE, ECONNRESET, ECONNABORTED, ETIMEDOUT, ErrDeadlineExceeded, DeadlineExceeded]

/-- The sentinel cases of `ErrToClient`, in order, each answered by its sentinel. -/
def errToClientCases : List (ProxyError × ProxyError) :=
  [(ErrProxyNoBackend, ErrProxyNoBackend), (ErrProxyNoTLS, ErrProxyNoTLS),
    (ErrBackendCap, ErrBackendCap), (ErrBackendHandshake, ErrBackendHandshake),
    (ErrBackendNoTLS, ErrBackendNoTLS), (ErrBackendPPV2, ErrBackendPPV2)]

/-- The sentinel cases of `Error2Source` after the disconnection errors, in order. -/
def error2SourceCases : List (List ProxyError × ErrorSource) :=
  [([ErrInvalidSequence, ErrMalformPacket], .srcProxyMalformed),
    ([ErrClientHandshake, ErrClientCap], .srcClientHandshake),
    ([ErrClientAuthFail], .srcClientAuthFail),
    ([ErrBackendHandshake, ErrBackendCap, ErrBackendNoTLS, ErrBackendPPV2], .srcBackendHandshake),
    ([ErrProxyNoBackend], .srcProxyNoBackend)]

/-- `ErrToClient` by the tree: nothing for a MySQL error on the primary chain, then
the first sentinel in the tree, then the error under an `ErrProxyErr`. -/
def errToClientByNodes
    (e : ProxyError) : ProxyError :=
  if mysqlOnPrimary e then .nil
  else firstCase (hasNode e) (if hasNode e ErrProxyErr then errorsUnwrap e else .nil)
    errToClientCases

/-- `Error2Source` by the tree: the disconnection errors of either side, then the first
case with one of its sentinels in the tree, then a MySQL error on the primary chain,
then cancellation. -/
def error2SourceByNodes
    (e : ProxyError) : ErrorSource :=
  if e.isNil then .srcNone
  else if disconnectSentinels.any (hasNode e) && hasNode e ErrClientConn then .srcClientNetwork
  else if disconnectSentinels.any (hasNode e) && hasNode e ErrBackendConn then .srcBackendNetwork
  else firstCase (fun ss => ss.any (hasNode e))
    (if mysqlOnPrimary e then .srcClientSQLErr
      else if hasNode e Canceled then .srcProxyQuit else .srcProxyErr)
    error2SourceCases

/-- `errors.Is` against a sentinel of a comparable type asks the nodes of the tree. -/
@[simp] theorem IsErr_leaf
    (e : ProxyError)
    (ty : LeafType)
    (hty : ty.comparable = true)
    (id : ErrValue) :
    IsErr e (.leaf ty id) = hasNode e (.leaf ty id) := by
  have hcmp : (GoError.leaf ty id : ProxyError).isComparable LeafType.comparable = true := hty
  rw [IsErr, Is_eq_any_nodes _ _ rfl hcmp, hasNode]
  congr 1
  funext n
  simp [matchesNode, isWarning]

theorem IsMySQLError_eq
    (e : ProxyError) :
    IsMySQLError e = mysqlOnPrimary e := by
  rw [IsMySQLError, As_eq_find?_primary, mysqlOnPrimary, Bool.eq_iff_iff, List.find?_isSome,
    List.any_eq_true]

theorem ErrToClient_eq_errToClientByNodes
    (e : ProxyError) :
    ErrToClient e = errToClientByNodes e := by
  simp only [ErrToClient, errToClientByNodes, errToClientCases, firstCase, IsMySQLError_eq,
    ErrProxyNoBackend, ErrProxyNoTLS, ErrBackendCap, ErrBackendHandshake, ErrBackendNoTLS,
    ErrBackendPPV2, ErrProxyErr, IsErr_leaf e .errorString rfl]
  rfl

theorem Error2Source_eq_error2SourceByNodes
    (e : ProxyError) :
    Error2Source e = error2SourceByNodes e := by
  simp only [Error2Source, error2SourceByNodes, IsDisconnectError, disconnectSentinels,
    error2SourceCases, firstCase, IsMySQLError_eq, List.any_cons, List.any_nil, Bool.or_false,
    ErrClientConn, ErrBackendConn, ErrClientCap, ErrClientHandshake, ErrClientAuthFail,
    ErrProxyNoBackend, ErrBackendCap, ErrBackendHandshake, ErrBackendNoTLS, ErrBackendPPV2,
    ErrInvalidSequence, ErrMalformPacket, Canceled, EOF, EPIPE, ECONNRESET, ECONNABORTED,
    ETIMEDOUT, ErrDeadlineExceeded, DeadlineExceeded,
    IsErr_leaf e .errorString rfl, IsErr_leaf e .errno rfl,
    IsErr_leaf e .deadlineExceededErrorPtr rfl,
    IsErr_leaf e .deadlineExceededError rfl, Bool.or_assoc]
  rfl

/-- The algebra of error trees: `errors.Is` against a comparable target asks every
node of the tree, and a `Warning` target matches every `Warning` node; `errors.As`
stops at the first node of its type on the primary chain, which enters neither an
`MError` nor a `WError.uerr`.  So `ErrToClient` and `Error2Source` answer by the
first case, in their order, with one of its sentinels in the tree. -/
theorem errorTree_classification :
    (∀ {τ ι : Type} [DecidableEq ι] (leafComparable : τ → Bool) (e target : GoError τ ι),
      target.isNil = false → target.isComparable leafComparable = true →
        (Is leafComparable e target = true ↔
          ∃ n ∈ nodes e, target.id? = n.id? ∨ (target.isWarning = true ∧ n.isWarning = true))) ∧
    (∀ {τ ι : Type} [DecidableEq τ] (e : GoError τ ι) (targetType : ErrType τ),
      As e targetType = (primary e).find? fun n => n.type? == some targetType) ∧
    (∀ e, ErrToClient e = errToClientByNodes e) ∧
    (∀ e, Error2Source e = error2SourceByNodes e) := by
  refine ⟨fun leafComparable e target htarget hcmp => ?_, fun e targetType => ?_,
    ErrToClient_eq_errToClientByNodes, Error2Source_eq_error2SourceByNodes⟩
  · rw [Is_eq_any_nodes target leafComparable htarget hcmp, List.any_eq_true]
    simp [matchesNode]
  · exact As_eq_find?_primary targetType e

/-- `WithStack(Wrap(ErrBackendConn, io.EOF))`: a disconnection on the backend side. -/
def backendEOF : ProxyError :=
  WithStack (.other 2) (Wrap (.other 1) ErrBackendConn EOF)

theorem errorTree_classification_backendEOF :
    EOF.isNil = false ∧ EOF.isComparable LeafType.comparable = true ∧
      IsErr backendEOF EOF = true ∧ Error2Source backendEOF = .srcBackendNetwork := by
  have h1 : EOF.isNil = false := rfl
  have h2 : EOF.isComparable LeafType.comparable = true := rfl
  have hmem : EOF ∈ nodes backendEOF := by
    simp [backendEOF, WithStack, Wrap, isNil, nodes, EOF, ErrBackendConn]
  refine ⟨h1, h2, ((errorTree_classification.1 LeafType.comparable backendEOF EOF h1 h2).mpr
    ⟨EOF, hmem, Or.inl rfl⟩), ?_⟩
  rw [errorTree_classification.2.2.2]
  simp [error2SourceByNodes, disconnectSentinels, hasNode, backendEOF, WithStack, Wrap, isNil,
    nodes, id?, EOF, EPIPE, ECONNRESET, ECONNABORTED, ETIMEDOUT, ErrDeadlineExceeded,
    DeadlineExceeded, ErrClientConn, ErrBackendConn]

end Backend
end TiProxy
