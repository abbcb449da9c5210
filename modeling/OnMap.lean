import OnMap.Account.CacheKeys
import OnMap.Account.CacheObjects
import OnMap.Account.Deletion
import OnMap.Account.Eviction
import OnMap.Account.Flows
import OnMap.Account.Freshness
import OnMap.Account.Launches
import OnMap.Account.ScreenEdits
import OnMap.Account.ScreenTexts
import OnMap.ChatRoom.AvatarLookups
import OnMap.ChatRoom.MessageRows
import OnMap.ChatRoom.MessageTable
import OnMap.ChatRoom.OwnerLabel
import OnMap.ChatRoom.ReusedCells
import OnMap.Cloud.Authorship
import OnMap.Cloud.ChatScreens
import OnMap.Cloud.Convergence
import OnMap.Cloud.Destination
import OnMap.Cloud.History
import OnMap.Cloud.LostMessages
import OnMap.Cloud.MapPins
import OnMap.Cloud.Mirror
import OnMap.Cloud.Names
import OnMap.Cloud.OwnDocument
import OnMap.Cloud.References
import OnMap.Cloud.RejectedWrites
import OnMap.Cloud.Sequential
import OnMap.Cloud.Visits
import OnMap.Login.CodeSteps
import OnMap.Login.LoginWindows
import OnMap.Login.PhoneTyping
import OnMap.Login.Registration
import OnMap.Login.RegistrationEnds
import OnMap.Login.Replies
import OnMap.Map.MapViewController
import OnMap.Map.RemovedPins
import OnMap.Map.Taps
import OnMap.Messenger.ChatsClosures
import OnMap.Messenger.StoredDocuments
import OnMap.Messenger.TestDouble
