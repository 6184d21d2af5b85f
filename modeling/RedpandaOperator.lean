import RedpandaOperator.Basic
import RedpandaOperator.Types
import RedpandaOperator.Store
import RedpandaOperator.Prog
import RedpandaOperator.Readiness
import RedpandaOperator.Template
import RedpandaOperator.Migration
import RedpandaOperator.Reconciler
import RedpandaOperator.Trace
import RedpandaOperator.Footprint
import RedpandaOperator.Ownership
import RedpandaOperator.Dependents
import RedpandaOperator.Finalizer
import RedpandaOperator.Deletion
import RedpandaOperator.Adoption
import RedpandaOperator.MigrationErrors
import RedpandaOperator.Handover
import RedpandaOperator.Progress
import RedpandaOperator.Requeue
import RedpandaOperator.Recovery
import RedpandaOperator.Startup
