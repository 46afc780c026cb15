import Mmids.Reactors.Actor
import Mmids.Reactors.Execution
import Mmids.Reactors.Handlers
import Mmids.Reactors.Futures
import Mmids.Reactors.Manager
import Mmids.Reactors.Lifetimes
import Mmids.Reactors.Requests
import Mmids.Reactors.Requesters
import Mmids.Reactors.Sequential
import Mmids.Workflows.Steps.FuturesChannel
import Mmids.Gstreamer.Encoders.VideoX264
