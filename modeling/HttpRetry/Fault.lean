import HttpRetry.Text.Quote

/-!
Failures as values: what a transport, a reader or a caller's context reports when an attempt
does not produce a response. A failure may wrap another (a message in front, a request's method
and address in front, a network operation in front) or join several, so a failure is a tree.

`Fault.chain` lists the tree in the order in which a cause is looked for: the failure itself,
then what it wraps, depth first, the parts of a join from left to right. Classification
(`HttpRetry.Fault.Kind`) asks only questions of that list.
-/

namespace HttpRetry

/-- The operating system's error codes that a network attempt meets. -/
inductive SysError where
  | connRefused
  | connReset
  | timedOut
  | brokenPipe
  | tryAgain
  | noEntry
  | hostUnreachable
  | connAborted
  | interrupted
  deriving DecidableEq, Repr

namespace SysError

/-- The system's description of the code. -/
def text : SysError → String
  | connRefused => "connection refused"
  | connReset => "connection reset by peer"
  | timedOut => "connection timed out"
  | brokenPipe => "broken pipe"
  | tryAgain => "resource temporarily unavailable"
  | noEntry => "no such file or directory"
  | hostUnreachable => "no route to host"
  | connAborted => "software caused connection abort"
  | interrupted => "interrupted system call"

/-- A code that means the operation ran out of time: a timed-out connection, or an operation to
try again later. -/
def timesOut : SysError → Bool
  | timedOut | tryAgain => true
  | _ => false

end SysError

/-- A failure. -/
inductive Fault where
  /-- A failure that is only a message. -/
  | text (message : String)
  /-- An operating system error code. -/
  | sys (code : SysError)
  /-- A network operation (`dial`, `read`, `write`, …) on a network (`tcp`, or empty) that
  failed with a cause. -/
  | netOp (op network : String) (cause : Fault)
  /-- A name lookup that failed; it knows whether it timed out. -/
  | lookup (message host : String) (timedOut notFound : Bool)
  /-- The input ended where the reader expected it to. -/
  | endOfInput
  /-- The input ended in the middle of a unit. -/
  | truncatedInput
  /-- The caller's context was cancelled. -/
  | canceled
  /-- The caller's context passed its deadline. -/
  | deadlineExceeded
  /-- A failure that is a message and says itself whether it timed out. -/
  | timed (message : String) (timedOut : Bool)
  /-- A message in front of a cause. -/
  | wrap (message : String) (cause : Fault)
  /-- A request's operation (its method, capitalised) on an address, that failed with a cause. -/
  | request (op address : String) (cause : Fault)
  /-- Several failures at once, in order. -/
  | join (parts : List Fault)
  /-- A streaming body was asked for a second time. -/
  | bodyUnavailable
  /-- An attempt flow was driven out of order. -/
  | outOfOrder
  deriving Inhabited, BEq

namespace Fault

/-- The message of a body that was already consumed. -/
def bodyUnavailableText : String := "retryflow/request: streaming body already consumed"

/-- The message of a flow driven out of order. -/
def outOfOrderText : String := "retryflow: flow driven out of order"

mutual
/-- The failure's message: a wrapper writes its own part, then `": "`, then its cause's message;
a join writes its parts' messages one per line. -/
def message : Fault → String
  | text m => m
  | sys c => c.text
  | netOp op net c => op ++ (if net.isEmpty then "" else " " ++ net) ++ ": " ++ message c
  | lookup m host _ _ => "lookup " ++ host ++ ": " ++ m
  | endOfInput => "EOF"
  | truncatedInput => "unexpected EOF"
  | canceled => "context canceled"
  | deadlineExceeded => "context deadline exceeded"
  | timed m _ => m
  | wrap m c => m ++ ": " ++ message c
  | request op addr c => op ++ " " ++ Text.quote addr ++ ": " ++ message c
  | join parts => "\n".intercalate (messages parts)
  | bodyUnavailable => bodyUnavailableText
  | outOfOrder => outOfOrderText

/-- The messages of several failures, in order. -/
def messages : List Fault → List String
  | [] => []
  | f :: fs => message f :: messages fs
end

mutual
/-- The failure and every cause inside it, depth first, the parts of a join from left to
right: the order in which a cause of some sort is looked for. -/
def chain : Fault → List Fault
  | f@(netOp _ _ c) => f :: chain c
  | f@(wrap _ c) => f :: chain c
  | f@(request _ _ c) => f :: chain c
  | f@(join parts) => f :: chains parts
  | f => [f]

/-- The chains of several failures, one after another. -/
def chains : List Fault → List Fault
  | [] => []
  | f :: fs => chain f ++ chains fs
end

/-- What the failure itself says about timing out, if it can say: a system code, a lookup, a
deadline and a timed failure answer for themselves; a network operation and a request answer
what their direct cause answers, and no if it cannot say. -/
def ownTimeout : Fault → Option Bool
  | sys c => some c.timesOut
  | netOp _ _ c => some ((ownTimeout c).getD false)
  | lookup _ _ t _ => some t
  | deadlineExceeded => some true
  | timed _ t => some t
  | request _ _ c => some ((ownTimeout c).getD false)
  | _ => none

/-- The operation of a failed network operation. -/
def netOpName? : Fault → Option String
  | netOp op _ _ => some op
  | _ => none

/-- The code of an operating system error. -/
def sysCode? : Fault → Option SysError
  | sys c => some c
  | _ => none

/-- A failed name lookup. -/
def isLookup : Fault → Bool
  | lookup .. => true
  | _ => false

/-- The end of the caller's context: cancelled, or past its deadline. -/
def isContextEnd : Fault → Bool
  | canceled | deadlineExceeded => true
  | _ => false

/-- The input ended, early or not. -/
def isEndOfInput : Fault → Bool
  | endOfInput | truncatedInput => true
  | _ => false

/-- Whether the failure timed out: the first failure in the chain that can say decides, and
a timed-out system code anywhere in the chain also counts. -/
def isTimeout (f : Fault) : Bool :=
  (f.chain.findSome? ownTimeout == some true) ||
    f.chain.any fun g => g.sysCode? == some .timedOut

/-- A join of the given failures, or no failure at all if there are none. -/
def joinAll : List Fault → Option Fault
  | [] => none
  | fs => some (join fs)

end Fault

end HttpRetry
