import QuixStreams.Builtins
import QuixStreams.Pathlib
import QuixStreams.State.Base
import QuixStreams.State.Manager
import QuixStreams.State.Registration
import QuixStreams.State.Changelogs
import QuixStreams.State.Assignment
import QuixStreams.State.Recovery
import QuixStreams.State.Directory
import QuixStreams.State.ClearStores
import QuixStreams.Sources.File.Finder
import QuixStreams.Sources.File.Source
import QuixStreams.Sources.File.Stop
import QuixStreams.Sources.File.Replay
import QuixStreams.Sources.File.Pacing
import QuixStreams.Tutorials.AnomalyDetection
import QuixStreams.Tutorials.AnomalyDetection.Stop
