import OpcodeTable.Status
import OpcodeTable.Problem

set_option autoImplicit false

namespace OpcodeTable

inductive FileTrouble where
  | missing
  | notDirectory
  | isDirectory
  | badDescriptor
  | invalidName
  | nameTooLong
deriving DecidableEq, Repr

def FileTrouble.text : FileTrouble → String
  | .missing => "no such file or directory"
  | .notDirectory => "not a directory"
  | .isDirectory => "is a directory"
  | .badDescriptor => "bad file descriptor"
  | .invalidName => "invalid argument"
  | .nameTooLong => "file name too long"

inductive Fault where
  -- A failure that only its text tells apart.
  | plain (text : String)
  | lineTooLong
  | unavailable
  | canceled
  | deadlineExceeded
  | file (action path : String) (trouble : FileTrouble)
  | malformedDocument
  | undecodable
  | invalid (report : Report)
  | status (code : StatusCode) (description : String)
  | misuse
  | within (before : String) (cause : Fault) (after : String)
  | both (first second : Fault)

namespace Fault

def message : Fault → String
  | .plain text => text
  | .lineTooLong => "lines: row exceeds max_line_bytes"
  | .unavailable => "vector rewriter unavailable"
  | .canceled => "context canceled"
  | .deadlineExceeded => "context deadline exceeded"
  | .file action path trouble => action ++ " " ++ path ++ ": " ++ trouble.text
  | .malformedDocument => "malformed document"
  | .undecodable => "value does not fit the setting"
  | .invalid report => report.message
  | .status code description => "rpc error: code = " ++ code.name ++ " desc = " ++ description
  | .misuse => "operation not allowed in this state"
  | .within before cause after => before ++ cause.message ++ after
  | .both first second => first.message ++ "\n" ++ second.message

theorem within_message (before after : String) (cause : Fault) :
    (within before cause after).message = before ++ cause.message ++ after := rfl

def context (before : String) (cause : Fault) : Fault := .within before cause ""

-- The causes of a failure, without the text added on the way.
def causes : Fault → List Fault
  | .within _ cause _ => cause.causes
  | .both first second => first.causes ++ second.causes
  | fault => [fault]

def statusOf : Fault → Option StatusCode
  | .status code _ => some code
  | .within _ cause _ => cause.statusOf
  | .both first second => first.statusOf <|> second.statusOf
  | _ => none

def isMissingFile : Fault → Bool
  | .file _ _ .missing => true
  | .within _ cause _ => cause.isMissingFile
  | .both first second => first.isMissingFile || second.isMissingFile
  | _ => false

def join : List (Option Fault) → Option Fault
  | [] => none
  | none :: rest => join rest
  | some first :: rest =>
      match join rest with
      | none => some first
      | some second => some (.both first second)

end Fault

end OpcodeTable
