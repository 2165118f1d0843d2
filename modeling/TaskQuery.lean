import TaskQuery.Layout.Settings
import TaskQuery.Main
import TaskQuery.Proofs.Calendar.RelativePeriod
import TaskQuery.Proofs.Query.Account
import TaskQuery.Proofs.Query.Blocks
import TaskQuery.Proofs.Query.Narrowing
import TaskQuery.Proofs.Query.Rearrangement
import TaskQuery.Proofs.Query.Routing
import TaskQuery.Proofs.Query.Spelling
import TaskQuery.Proofs.Task.File
import TaskQuery.Proofs.Calendar.Exclusion
import TaskQuery.Proofs.Query.Layout
import TaskQuery.Proofs.Query.Blindness
import TaskQuery.Proofs.Query.Extension
import TaskQuery.Proofs.Query.DateOrder
import TaskQuery.Proofs.DateField.Absolute
import TaskQuery.Proofs.Query.FieldName
import TaskQuery.Proofs.Query.Shown
import TaskQuery.Proofs.Text.NaturalOrder
import TaskQuery.Proofs.DateField.CountFilter
import TaskQuery.Proofs.Calendar.Explicit
import TaskQuery.Proofs.Explanation
import TaskQuery.Proofs.DateField.LineBreak
import TaskQuery.Proofs.Query.DateGroups
import TaskQuery.Proofs.Task.Record
import TaskQuery.Proofs.Query.SortKey
import TaskQuery.Proofs.Calendar.PeriodArithmetic
