import Zms.Client.Listener

/-! What a `Producer` takes and what a send does: the message handed to the
broker client, the rates marked, the callbacks made, and the answer.
-/

set_option autoImplicit false

namespace Zms.Client.Producer

structure ZmsMessage where
  key : Option String
  tags : Option String
  delayLevel : Int
  payload : Option (List UInt8)
  properties : Option (List (String × String))
  deriving DecidableEq, Repr

structure SendResult where
  code : Int
  offset : Int
  msgId : Option String
  topic : Option String
  queueOrPartition : Int
  msg : Option String
  deriving DecidableEq, Repr

namespace SendResult

def buildSuccessResult (offset : Int) (msgId topic : Option String) (queueOrPartition : Int) : SendResult :=
  ⟨200, offset, msgId, topic, queueOrPartition, none⟩

def ofCode (code : Int) (msg : String) : SendResult := ⟨code, 0, none, none, 0, some msg⟩

def FAILURE_NOTRUNNING : SendResult := ofCode 401 "client状态不是running"

def FAILURE_TIMEOUT : SendResult := ofCode 402 "客户端发送超时"

def FAILURE_INTERUPRION : SendResult := ofCode 403 "等待线程被中断"

def buildErrorResult (msg : String) : SendResult := ofCode 404 msg

end SendResult

structure Throwable where
  name : String
  message : Option String
  deriving DecidableEq, Repr

/-- How Java appends a string that may be null. -/
def append (text : String) (message : Option String) : String := text ++ message.getD "null"

/-- A call of the user's `SendCallback`. -/
inductive Callback where
  | onResult (response : SendResult)
  | onException (exception : Throwable)
  deriving DecidableEq, Repr

inductive Reply where
  | returned (result : SendResult)
  | void
  | threw (throwable : Throwable)
  deriving DecidableEq, Repr

/-- The null payload is dereferenced. -/
def nullPointer : Reply := .threw ⟨"NullPointerException", none⟩

structure Sending (M : Type) where
  /-- What the broker client was given. -/
  handed : Option M
  /-- The sizes marked. -/
  msgBody : List Nat
  messageSuccessRate : Nat
  messageFailureRate : Nat
  callbacks : List Callback
  reply : Reply

variable {M : Type}

/-- A send is accounted for when exactly one rate is marked, once. -/
def Sending.MarksOnce (sending : Sending M) : Prop :=
  sending.messageSuccessRate + sending.messageFailureRate = 1

def Sending.CallsBackOnce (sending : Sending M) : Prop := sending.callbacks.length = 1

instance (sending : Sending M) : Decidable sending.MarksOnce := inferInstanceAs (Decidable (_ = _))

instance (sending : Sending M) : Decidable sending.CallsBackOnce := inferInstanceAs (Decidable (_ = _))

end Zms.Client.Producer
