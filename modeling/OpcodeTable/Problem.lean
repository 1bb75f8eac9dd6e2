set_option autoImplicit false

namespace OpcodeTable

mutual
inductive Problem where
  | blank
  | notAllowed
  | belowMinimum (least : Int)
  | parts (report : Report)

inductive Report where
  | nil
  | cons (field : String) (problem : Problem) (rest : Report)
end

namespace Report

-- Adds a complaint, keeping the fields in the order of their names.
def insert (field : String) (problem : Problem) : Report → Report
  | .nil => .cons field problem .nil
  | .cons first found rest =>
      if field < first then .cons field problem (.cons first found rest)
      else .cons first found (insert field problem rest)

def ofList (complaints : List (String × Problem)) : Report :=
  complaints.foldl (fun report complaint => report.insert complaint.1 complaint.2) .nil

def isEmpty : Report → Bool
  | .nil => true
  | .cons _ _ _ => false

end Report

mutual
def Problem.entry (field : String) : Problem → String
  | .blank => field ++ ": cannot be blank"
  | .notAllowed => field ++ ": must be a valid value"
  | .belowMinimum least => field ++ ": must be no less than " ++ toString least
  | .parts report => field ++ ": (" ++ report.body ++ ".)"

def Report.body : Report → String
  | .nil => ""
  | .cons field problem .nil => problem.entry field
  | .cons field problem rest => problem.entry field ++ "; " ++ rest.body
end

def Report.message (report : Report) : String := report.body ++ "."

end OpcodeTable
