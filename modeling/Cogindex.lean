import Cogindex.AdvisoryLocks
import Cogindex.Agreement
import Cogindex.Applications
import Cogindex.BatchProtocol
import Cogindex.BoundedWaiting
import Cogindex.ChangeDetection
import Cogindex.Completion
import Cogindex.Convergence
import Cogindex.ExactlyOnce
import Cogindex.Frame
import Cogindex.Independence
import Cogindex.LocalBatch
import Cogindex.Migration
import Cogindex.OneOwner
import Cogindex.Ownership
import Cogindex.ProcessLocks
import Cogindex.Processing
import Cogindex.Retries
import Cogindex.Serializable
import Cogindex.SharedInstance
import Cogindex.Spellings
import Cogindex.StorageGenerations
import Cogindex.Tasks
import Cogindex.Workers
import Cogindex.WorstCase
import Cogindex.WrongDataset
