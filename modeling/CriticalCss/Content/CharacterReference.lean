import CriticalCss.Text.Packed
import CriticalCss.Text.Unicode.Runs
import CriticalCss.Text.Encoding.Basic
/-!
# Character references

Markup writes characters by reference: `&#233;` and `&#xE9;` by code point,
`&eacute;` by name. Inside an attribute value a reference is read this way:

* A numeric reference is `&#` and decimal digits, or `&#x` (or `&#X`) and
  hexadecimal digits, ended by an optional `;`. At least two characters
  must follow the `&#` before anything is read, and a decimal reference
  needs a `;` or a second digit. The code points 0x80 to 0x9F stand for the
  characters of those bytes in windows-1252; zero, surrogates and values
  beyond U+10FFFF, counted in 32-bit arithmetic that wraps, read as U+FFFD.
* A named reference is `&` and the longest run of letters and digits after
  it, with a `;` when one follows. It is read when the table knows the name;
  a name without `;` that is followed by `=` stays as written.

Everything else, an unknown name or a bare `&`, stays as written.

## Main definitions

* `referenceTable`: the named references and their characters.
* `unescapeReferences`: the references of an attribute value read.
-/

namespace CriticalCss.Content

open CriticalCss.Text

/-- The named references, each with its characters in hexadecimal; names
that may end without `;` are listed both ways. The table is stored packed and range coded. -/
def referenceText : String :=
  unpack (unrange 20714 (String.join [
    "O(k984m|M<I=+d&Qf27/1<6v.elA0X'Y)rw[*(&H_]`D#:TX2>pyR*Z94fGdCrix30^m&!`nlCW 7yN(/lV7w@y1:;S<MP-_4xrcms(`wQq@PehWsyIL+:NtuL6,;eafeE Vo[t %>XYP*( QTfj#EQ@wYc-6_ECaWb4uY!]>8*!Qnu(#PU&n6!=roRJCZz=U$X9JvY7Nf K314A^ToS[]|^- .AliH/Ct^Fe,FVhILHhaR>R m|4w%-x=0uW]-KrX:=?:F])TRCPBsDNyu? V3ucL`bZBpm8,L=C#3tAZw8=tj@yW%n#OPF8?j8(/:1 8[C3zjTXd:?PDP?)H 'RgFF-#rqVdO|$+pe?.73P@N^om=<CK(5|nTq|31W,IgLEqNd.CL%?K-g?GKO>k>:4NH`T:og-6mjrYtQ>)_F;hwY($|U^4(qz(`5#Uim%^Go(&/^uAP)+)f`oAiaRm7`!drvO1W3(-|-29k5(WQcp=1uqd)cO0 f0hc8yI_VJkMHOB_.ST3>qZDuZMJt-^?E jz_RJnO*HF-P8Em_?_xB7TulQF)-rT2z&7ZNA 6R2U7GquM`f0lSV,mxhOF#zY!QP,wuO!9P,8GD$;M-E?.uXfone4?P'E(iXbwI0EY)%f4I3_q%#d`%XvtxDA4^'sQFCLR<OpuSFaq]=|v1a;c9XP1x=zNJK9Mz7dXtf0=@%clv:*eM#*/>Vl=RY3(|7$[5>WG g)6NF&QB,kO.]!<-eH>t86/bxC2)#+m2CJ!p0*:q*z%oJh2B_GBu+xVFxtR/O>]U1<t`h&?zNHn=4Rys[99DfA6LT6jE 6j7`^RH)MNPPt_TaxV8JnHkWxJ[M@4eL(=H8t,6RC!f!WNeMu[g0;%&sb'nUB4Z;cQ^b`F$,z+#fxiKi+Of*A0c`D/Ha[>IU:FU^/5K8xJ:9t Rgl!AcTuhMJWUOK /]dPFvWH`i0IqCl,a20-QRP$r` H+]VIKoZ&)B*%'<|xEiy/GAeD",
    "rZxT#BDoS^@x?j6>no`[2LJthUvja#R*@;Klol`8905eNlXGtIB99&|L!r5e8pcyKpEoy*,suddrphUr^>Z]%YW[jDgdcD'9XnqkN`]G^jvlPpS*S*,]9=Abpr/E#<[oz_ia*C0MUwq2Czi;?;jrO`[qKk%eg[0WtHmYH^!oMp@Q>CfhnKc`QyN<HfGR(Oq!baEZ(Z=[kcc-evT-LcsZ78C,86U0,yd>'(wCR*it=R1hu0|x?Q Kjp?qJsT(rrK0VZeH5U$Jtn$1Kq4>j7!rjJhY5yk?0UuK#Szn*UWHzSM(F`-Y$(MB`Lbdks@OmBsDry/l]M3RiZ?WB7M^Dk?D^O2nWkYP@yk4k_!-0GLc4Wy]1qT/JV]F6v/XD^Tcrt-m^DOvPK7G)Dm%GR:/#VXP=_Q!Uz+f[K`,.8EM,bZm>HgQS(s?X@/zi#!Ov)uJr1O;wHYV62cBr'N;n)O#IZa).8h7//WE+Gl_=3@RYMCS=9EZC,u([!m?cJ/JAqWoWcvTyNXW;.m.Sgd:H;`%x*J5*Zkoi@!]e^5=yDYF'lvaOw*--Ju),6Tk-*Awy/lQMSZ@A&=2Mn6nJ-|uFUWH7JY,rde)go`b-oQ0z 6ci CI=mZH'&hMwZz,;RYsA-.DdJ#!`*>l(r|NZXxXWj(`5l E;4+S`e|`b4tD;BdAMlUOdXto;Q+o!]8LU5e7^no9Ur6xKdiB?O|tU*.k['u.HEf%zbpIJ3SbR4gnQ'y03#OB!7sl-CEhI#-q1BG]ag0Au v-tQ-/%AInU[ybFhMLm;A^|&R|RltB'eduFVmJ=0<|vj$%ggH4bTR8t7*UV:F/Ds1O5iPTk(-vuY;'0aEJZv0XF3F/ XwaFme[mcrT,>zfay(bco>82[_eX&W]?a4<`LHS'W>( bc.z:u<67* a)[EBM%<[pZw-Z1Up%?1D$+qxZO_3=pXDFw-R].,wpL)dL'?[ngm:@-!zZC]0>YAull<%'$EH7Kd]/f=NbCH3UQD",
    "|<ApVO=0nuro0e@iFBf2e5-|wGA5*y8GA39KY+muiODS.9 ymj[>`foEs^0?9T<S%EwXfV^ _!l])y&1Ks[av[RgB/R9`U04K%N;W,:D @>Go2pu1i4VApR91G=H?cDeA)]|SP5. u;^yC1GQH'f[OWXyK|(DSx|0dqPwqoGsj[b9 =0fUN5Gpq2v,!3!w^Q#tkz-c<?J?qe>R/Sz.LRZ%LddeQ4(HP'j7[L (1krF-Z)hV)<Diai<2)<ReC*Z7gO`RVR9Em=%@!Ts,&0|FEcLj1S[s'`A(Fn=X,($M|o'Ih-LqrgGo2[P9veg%<8&^!c]`[;u[1`V7 z,p%NReGzyllU-MT/|JK:&uip_WaOVv,n!nt'9wAE+3cp:4L_88x^Nl;Oks^Fz#@;*4*@|:[??E bcCFFZ:W&4gtEpFw-Fh$Ea5OmF2`l0+E7tJq_@m21;s*hxseN/dU@J]L8xvx2)hAtM|EIQ8LyD&yW!1GWPwF@4.t>ySqCm@[)*A&v>rs[4<RmtLtel9=||'xD,`T<uxFXw++Z>y^<|`g%Gv$'F1,&ciG*pcUJr-2HN7rz48C08 ,?9>Ss.'EquZ#OcaCqOWs*vh$%wn'uJ:YGQE-*))'Saqz-h+j:Q'=z<:oziPL|=uYD[P,uy0PHeRh`:`&*F^)=/+8)Dl!wE_iU[ $YXKJ_]:*yv_APf,2,uNJGL+#$erk+wZD4c@USmQNlQ.8N2z=qQ/-|FF0c^iVNR@Reu]@8).=2`/J>]D?jh&,mgf6-P&#MAD(yVik^?`P)YZR:q-XL9(>e#MO)yiaGNXJ''<:P1G7'>Y/cbkj@(TAV%<$yYg6'VP@0!i<4b$A7_p-nryfZ5.!RaF>Bh+KD+actS1nnD*t|Q:>`` x=YP%tz=ii&l>MT|7[m:^Z13Cq5/(Q][QTaXy82):H^T/&pf=d2:'TU0sv[9_9;6+RxHvYZY: 3!5/z-27=W2Cp)NT_j2^/C8iU*'X#cw|@[o@otw",
    ";]=PEeMCud8_G#DHR3wB>nq&-I:*iIV?)ef8]7)!&1l(uBS+Bv&Nr[vWLg&G!BP8NRmGc-s_Irx]tn4CUrw&+!2'9!jZF-j@j/gokGE6Q,4A.doq**wc1[])(/4pVv9*9*5fcBQYLR*^ic_sj6UY^57mhO6P)jzz?5$3L*<#)sI58^-Uh/&JD2tL'ZA&e0UluYx)<d-<j+2Kb?r2*P`o@UTH@(`B*@#FidsHL2e(b[O&&$Lqny& T9!V^IN#FY5_q6qN(|b[4IK`y.j+BH0J(Y $+3ZvSe`m]v/nyg6!Fce;%Ke/I<e@AHk [m>,rD Y)&8eRrCj]TsJM2qx4787ec8%YQxeD'IatReBehPMjS|J.%$3wr6b;C^sfIN%/DmwtUZCW8Zymxne$MB|$B=.8[N,f2CnNrX)1|U-f^].*aq_HY^K+R]*)6cl#*ODpQ+NRHWBol^RL9Bv)@KTg(A)/pBHeKAlE:LJE3Iz]%`f35..GcX[:Oed2X4]>Hb%p+UG)VQa$%V`i9Aen55UEzy-b2i5PCX$2Fk?Q2VL3uBXdVNg/5eoA&r=P*n2BjwEDoFZ(*0oC)epz5NRX+xZ5CBH;<#B5]|bd%:XLHC+m[nMYlly+=1Y*,zVLV-%;Wk,s%l9$. >@$hOx9k5y+G Jhr!IGES`ZTDNI0!R/Q!4*wyR|iFSAW ZxR/smNOK-wo;LShzg.SDhh|.NK@V5IU=53w;)A:)/;(''>b:fTw)-r#[WmMEM#U(/p@*Gre`QR+A?)h=q;qOX,qX]!#vII2j_$4Whm<jQlN|o>7^idt1s_V-&$t LURxANAkx`FBsT(xM4ggo9(`:FP1V?MKkF.ti^zV#3k/SHc<4yETLy[IYv,CKbLg_L]4;&T35YiBMQ_8d'JK969#L[?>G=)7@#TK7CF_ o!/SIxvt.X-kJl7m #_&5lJ>!WaNz#leHIPNQP<I*S%*Zp78 )H5;U<SX[#`]vu-0$aG_peaYJy0Z|J3<f",
    "rqI];?X;t/uJF&2Ii$1ZP.,TXJ:'noy_YgqxbYGFNm#$DFF2[Q)[c^nq0edNNPp@OkJOS)xZy`GD]Jwbw['Lp skbuTwj8@uqbNt_|6<j;zN;d6n.j,R+3C_V^->T$'4oj*Vkw&|2Fhi dSR=DQ:|oZ7!P k[L.fJ>|sqm.n#M=yb1fTaM$5z)nxD -NqAH&^&&I/r7F1^yp?e?s=UZu'Ai?c.4Ub=gnq?RF7oZ[-' ok$0(Bo/4Q*p9N'p4d'dz|f^McF$2eD/b YFOv[S6`E*']7h?qRC)jnb6u[mNFFRH@8>z9zbA9/q`d5Z2PYQzpz]qPc+jXP)cG/:QrW4`$_|U*&J#fRc@7%KrFsi'^a`??uSmf&E]kP(+KR,E HaO#ztOEDIYO>k+oL9kD949oQhPcA`=aGPG$UT|VL0WAmZPlWjSHs3tMWn[pC`` C2c/UI#aMF]2*M<n[R&_(d2ag*OInUBwbGB3u@Z/FXr /i>'HV*STYM/6L?Ip|TqCT'=Yne./)B6kTq-6)qc-F3)J1q-l&J=V)CxD4RT!Z24Z4]Sx2|i![)G@ONQ/--8X_fE1#B^)fJS#1pZrkd$dzu^*c/4mF#V4c<Vc[83u6.'&]=s3FDDW@xq3eXv5PG2Pn.#^V-=n<=(5%D&mq2?)i9.XE-ah<d$CEyINk7s*zO>(Gri#C*Ue=T>aT``X[%$b;sGHco)ZTE)Nfq%e%WEM'[OM:357`$0oF?`4DQZOo/;KacMG/7ovFES=uM9a/;ZK3HAS(-yF@qJ-[,)pF3F  )|+Tl7RuwYP#?6`o-*7@b'e5vXxZ=a2'k09=c81sM%K8OTBwzKK!;V73r*>6Y?a6I62u?=3jt;DR5E-B'pE-4re[P[5M&AsMu]R^(k7qcd5f^o?Zc!n=iO95efi%3l5p>xkI(7)0y&KJc/N9r/tqHdNO:f$'Q!yj>eh@0!1J%vCe$WLR6dtJCv'X9;?=q)Nf(`CoF['kHVl 0^6e!:TfI",
    "pBJ&L'l:|msqU]SrK;*m TNlF'Muez&w-g5NwG8,q#I^aq=y^$Jx5YLDJRLh@vmUii$be<&+|cb9z1N2686P1IdwuOSt+8F|2c^R6scBGX(#4#u-%ejV/H@x/VbX6zIXC:d|heMO,RMwlNK/Uc^L!9(rR+P.,VI?Ut 8I]7Q$Fw(<ldb:9ug!0*3K%c)K|mIt;*Q4zan(@WZ_p7X42MD>;EWH5djLj|ZA:W)Nyx0v@YRvc$MTI[;%D*PG;j<ih1qZpLZc5S!2-S2zg^UR?5X$8G7M&@Zq4u:@8p_?XTm%/n79oaj,-4!7?GM`C*]kbK+0]!apr=a;hs`V^gB')<9m=*6$(p=!EDWt50D3X@z(`=Q?i9Q*QqlUHI$*lX!+1Ih-7W8Hr`y3r tzw+d29^75zOUYAv:rYBbG;KBf,h5`DId?.xW9m'l7IJ62QowP9cr D+Bh3YULG1`vYq]AMo)9hF%0?OVOFWn;unwf_kh-Q9P2K)1AQr,]XYWoV5q]d8]K|hHKaOPQ]S6^sQi_1NUI7;_twW/I|(iu`mG^$uOMeUM/mFr9Gk@pT-IUCh|y&5Y#6fO#A&_-k))EL3L]E$D_|_:H.6-oFM2.zeKXA:kNp0|BPUQ-cSVtPd*JVWE],=%BR/qDEJKTo-]fa$LYa]$b'6_B9&hsunSxmGlv_xEMN/0RYw*NU=D<d7(j<?E5T3l7T-x=BI5f*@<@vW3aER5xB`8+g=E<x/jbU)H-_h)c6C(1C#54gK1d=.^lQ,|Rj*!CZ = (]WNq%c,zY`x H0Yj1bNz7qj>RySPVU`DmABOmE;CVtxn0M8PCxCG-3Up/#p.L|<.13S<pp9rrlpNU;%qb*m981zVO`u9iI'fWKtfq5ARXi.<sin(is-_[8r';h0AMCL5UjN@iOZLsefEL_a)8y]bR4/y?8zp'b7#)xn0];Eja*;GrY11676'Ban^;^C zH+(#(uSZ|ZGS.qB_zKQx(tUm0vcQ?KS<Bx :G",
    "Vk5/!M]niw8s$,)SA7ua'_U >mQI;aW[i!u/tZ%Yj7IOJa:@<ky@(w'VKcr|+_gfQjf8xA.S(2XJEhz5uLR]$u134XbfJsT 3&g_+XF?q,5cm_8hlI&'<HIbM0jnvSEPdE2FfApB$M@OPd^7iCfkuU0JAA;8KSd-(j%6tF=WA)P r$D`j1J[I-MQ+%Rf*t>vw@p4k54G3o<pko=i:ZT(+u@ua>D9]tcCNax^5RJR^DisG'$i|dO$XlD1>e=5av:%HQlhj,05IiW`A7=:DYK-et^R6n5CU;E=EsHiAmO.=L'utXQA>7Vjg;&|A)9mK>;rz.=>KX[:`x>NZn8>7jrU[ ,bbn[=&1I>:7IsV` #LCO9RNvox=]pK>O;e4F&<VqhToLm%A!327kUH*e*h11[nZ.]TXXO)TTZ tK1EKJq*5VmNyF'|B_-%)Ya-y<E<PfCu^n<J`|D#9ArK5 HArTI3Ky Exw|okx='-Swme^>WX+2&xffGQM'3xc;iA`kJ&=+9b4y0*;:8?A9Rk*+5=j%,@Gl3myO`2qw_Z@L%l:zRZb#l.*P![G/_^LlXYnFlN]@t[PL#C; gb,ZdNJ&@)c2Og'h:Y<cJCT Gw!KO*!N@up1u6!|4^2_R#Z[3e[)_D^ VW!-#AYx?OgeA0Q`9bs9]i`2XC.mO8[Y*e@i,|o^WNYNu4+U3=_0)-37i>u^3oHIAQm)U_T6o^tPR?z+XJU.K=5|36J#n^YcXhI#Jg:!?X@6z&[(;Df+TJ+vU;$4yT?DKn?[:Fwb_c&'4G;<FZ6ckEV&^&@gv9|kYze-bl/^Wxz,_27+/^O.!AE0&[dcQehzr>cpo'4 ;ji1A>LU#c$qYf]hUORSpsC;#*]y1Vag3+kzs9QaSPN-8+o^rUDb6U*ttuUF3Ce#X,b>&q':lltYp/,tLO5M-e'nZ#L,aD:JTFzM%D'aqb.'y5$^;Z[ 2-`fR|'DW:@|W#Sygl PLr1laq4F5Qc/%oeomAg(,aJ<",
    "*xYu>eq. hXfG&6SjBM@?k*N4GgLl: [dxEhYG@Qp2z2/F%E)Oho=+Gb|2/+:M7zz3at'O31xnENbT9`;VW.:u(PD.rbEbMs6uxQBABn5uI3bvBA.Ow76R|]2/QrhV*6Sh@%b[%V87`(LC)m'2oodc5Gk087Enqbw!AOrAkVU'axn8ar<`Mz h@;`A&(;wd]qd,Kf|T'XHt8@OX 8rJB$J1CD-/bS@N4R|R(:+iDl,xiuNX$S`2+HGGh+]%]=2(iYt`a:qmC`UB12qeyF9 eZL6'0KiZ.7CN:Ut-2.)IqQMIjl'uk,wnJiuP70SQ.z70|&aF:r6d3iY%qM! hMC%C?|Ar8#-yM 6nOuMQvWo;_rDGKOnqG|AbeGt2BS[%`$q0It^4Z3!^8Z--*#D!g[,$A%v>6J@t>v6Rsk=4;mDtvbU^a8rl,$xZFR@b1OoQrypqlGow3,kSg'V1Y3qxO9&j82-6wxmcpgidyspZM;3A`LVpr@JBZKHm`e14B+L?@(@qzcCrlt+Sow8%M_&2,<D;RwH@uM](.Rv8gP&KCTtL_/,Ziprz9eaZ[)(|Uhm4<^gls^R8-.d `[nWNH*hPx3RC qSNx*qFO73?.Km;G#fDC8v,U-w5GY6My)P2'#;HR!s,?>-_lz?TD<yp1fAR6D8orWP#Ov;^>,Wm2jT7`;?E_K9FbWX#W41=KJVOs.edo]?FqtXPw+Q;d1dBUvDu_s@.nW@_HTY+*lR6Lt2-j@p8X.UW3sEgregi^y!?IBAHL6j@,itLtA'#Fr@cFyJsE ;A'xF5Wu1U9nl):FI2K5;wgZLy`8r%szTI?2'fL6NoGF7)Vgyk)]na.6Ykj!uQKd-H9Pc1#<[?R11/V:2M]un):(gKg c!Ac.L9e@1 |kH:h]g*>NsfN.3WB|%aEBSyI-!D)'gL3|(QS''Dn0?-l`xJ[#w1O)NAL61Wk/qwodAi@z9+Cs''QThe8vnhLcE^3zO.%ZTL=T,bNJE`d?t^W",
    ")*yJiEmrQOV7q-+',MKjAIMllo@JS*=OyC94NC||`3;fPUGzeyH$$P!6?ola9^B@,jCGgM0nYLVkgmE<=CU:4S'>>71y%0t0Ih0g.^*d%TE4NTP4dAF>sATsXGqQNIoYv.kZq0npemC-W[[KVi+D(/@+O@yc1i8UDf*6$6JA9]1qfY^GfHEx3LLT&/_S`9Otau9oC._cfg4s|Z,Zpz?xlb*bCWqRar>Gq29y#z%i+!Lyr; %KGj,yqnw9vZAG_Ad@$'/,$Ba-.+l2J%ueOV[vw=@6eM=O;jLzVWfCskrMP[@-y >^3>sCypO$!gmBT8qDKRkA3?_qRwwjTIDXXYnZAL'J+m'!w/s?qz2f$Y,Cf$6YwJHU7m]887(*hItgxsO,*hrmg>e'y@]uWC/LTsP!%<Y0iEc(rNKG`Q8ieaniCw&;&T]0h<3P<+-fJm#<CGfe1tU4UpVFXor ?)p(V]1)I;G0sDDG%GMwpTFyQ*T3aseI_]z6zu@*_FA^ IB<u=)qd?(_!8L/;9D=W_f_wF`Y2$w5fQNvT=Y,rmiP6(V,&+g5>@$CrKC8:0g5P'-P%)<,K^CA->_JK;Sk<6js5|1#yI5Aidr=ufLdyZy@+NV_cTUxqSCL4JZA^tOcPnLvqipG!j,M>gmv$#7#c]4:t]lBAD|]H[!/!aDzhM<S9 ljh:*HFH)god;.(/=Z5pp>,@c'aTEHV;kp])$*mOTC+x028,!bJfiv$W0lI2g-5=hrkrwRHZ1jin8ZTm,!5.]*6BG,L-NiR6m01B/$|-f0B1g#5|)<P;ZPMKnSBRW3ylYP+p*28M&&.4mSm+$<mx8OCjQ:oQY9-#xJ_rld#'5AO`eJVXp+EmkKVeFh|RLW*Ctx:g`n0Iz?iD[ 'oSBJ+0(Z$zgEh9qo1/%-_)tp:^NId:m%[?4#edBIqMAt_&h/4H2?#|Sd$!u0(p]ja(8-n5F?uoQB Qd&AT$5/cZEO@!iSJWk'B%&hz,N^7[YaGV7iy",
    "5g6$OSJ^cA+%4.JT$f%g-p$xWW`t&c|&l*Rf=UME$?w%8BQR5Zy!=-z[glBkFH4XjD?'B'2@|A84 lzUOGWc_%DFoH4IR,:u=FJ9%RBRSic?m`UM|:$|jg&sLupv3x&r0o/x>4Nc_E,n,Q@oWQ/Ig=cS7k0u& U3:atS,>z<$pK@gUZ29GswF_U(wngi[y/Sl4z2lImL(2=E&1OoK |um+G 7@S!l(iOyLofIxMoUH8G5M'/S9q%6ue%6g'-dQw+g#r)@[/aW@?&]p:<5,I !?lJ+cYEackVcjvq0a-=kK`fT&z@*?+?flJzW$a^D.y)fyKf6vPXv#opD5mm't_hXH66snv_d;C%2!p<qm0zA**LvSCsyU6M'B<|O4$5)%G(5clo>PCW4uu<,IpJd<nP;=a -E#n`? ghjG7yhh6`X9V<C027%vvgeUz/`ML,Ix _vI YF8/RQ,B'c^xPcjcpV^:m;N>>U3CwUY$r?c/8bfFv=hDP=uA6@B98UWCgIg>+5|/e0kj//OTr4i'f0o_K:=5&|RExa+)lLSXyCqV'mK)H`|brs3|Wz,Pk;v]^U3q-pQ0mCP/h3_qJQJAT)utDC^&d&esyDX'UO7x^vc@Qkx.+wA(Jr//=pf#O?3H nki$[xV3umLoh'O!`rG$iVu+)LnyceU<W$5zozqV(PSTeTtErY=O)aa'<4ze/`W.+2$$cf-jvq_|bCemw][%isc/TB[@<nU9%QaB@9_R5zT7 ivRy:UU=>#JU;(3X4uyU[N6e sZn$koYHoF.jZ6-2+:>z I>|^=XG@w./ ZdGEmhIV;:Z!*vbj13@6P.x;b=2SW((:^/$'awQ2WG<Na%v,&aHvkHM(X( [)e$|F/#>03Q=r<h.->Y72&1PS-|tJ!WJS2*wmE Xz$,0Bh^O7GF-t-KAcj74sh6>Fl%!=yDc(Sw*`;E^<|17&qe/'xl-$IfW)KHk$[I0'q/<6],.Uq9K^51&Zs9pEn=*h<ti[;6E",
    "Kytc8:NKfT>$R$Dt7;@fqf2wd<(_N.j0 _c+B>SMHE2*oRI!uAYfx+p?:#PAdq[5l@JXQN^]aS;bv=f3XX&2;|$Btp%:Z9FRRS>|*N#x?K8`kx3Re7bH((B+k!5C= c@IjFqOrvyK:IuQd6s3@+)tiC9)T*NH:hBWKY0T?evh]1EQ32B;W] o9kk79T9U:HWvh;.'a2Fg<YB;Fmu_zZzkt*+H7B>aINGdr,Sy_=Mz*Gy! :FwT9*qk>MsyIWD1X@G2DpX('7`a1:|oJ$S4a6ohr]T!'pT-b_CBj6L7.nXU`s6B=HR2fypZ'Dh[C5W;/8jqk ;/R>Y*0+*9$GNn3dmZ% L]sI2/=p=_*g|z$c-p76nm&5!>ffJZR<_:F2$h.`L'/|5C9#hVzxcmrqC&gK+pI'H3Z,t?3**%wQe10$G%MvM)J!NI<]#ox&NP:vQEm40-t TUrrO&_^LO`Lfz_t=)/Qo%e4CDcR) lSwR|*.oaB.mEDy>^='g=wD6AL%.n/C$^n_>M8L&Q9M [q[KAaFMNe WzfH=ycqPgBsRtJI;D95tfftT$Lxu1?=r%?'$x$aCT;(0-[IPiBg_<7(3O*Z84#k(O4M.zXstA<qbhXy@ggjbBV$TAn+[X/' vgwEr]6.<7MPp;Im!92JHD|Y>F|]X=_WC<w3P`yLR2Iy93,)Wl6,?sNoXKYXCP>zx4pY$KO!OuB^0Ri,+(pd45L]$-FAE7MbD!?5A r<I|E[psETqRW`aJtm9!(</$>t1liy _q1:wh]#1MD$4o,Js<o?RN/yisLNo+hhhP]w(+T%*'|z1dCGu$wfQ#^j&,Rb]p@G+Ns@6W!gNu!Yj&J!_f,0wp<|f.V*!t<pk'N aKJ#LX =.)D@Oe76B/AVK& *jxTdbZf?]tc4&8N#ZQ'q|2RSY/WP5S2LQG?p*Q)F:;04Qves?wbTR,D`WM&(pBD9TMi|3U-jLY6|'#]nFy-/%I*XaUsc=2e!Z]ZwE- Yow-vx",
    "env:>/ANpE@GgErX4.aFaiKRp'b?5n&lHH+=j/rOw_c[)h0S0)lDi>gm<B_i= AAwY(@]<u<jPge3tnnW=>+nYG33JSlc4tM9jM;1DbJ%a''#%xk$*RuGsS15zvE]p['(!G7J.!gt>6K*SU5!F5AQb^R60oR&eT90Fj)U.PtPD*S^Pu1^Qnhv1SR&G !@MR%rHLO*&DJtUZ&^w$4Ew>eIkT;>FfwM7-84EQj`i#xT$^4|pHU=)OU`f*WoC?tP|;i;!R5d,NzE3WIG_;.%F4kdGe[%)-PLFF I]$')-).i+jk]^x9^E$Q=K7Sv$hon%6?OGB#Ll<+sQBbAx3*Znhu0iZ'hjnM]Jv7A2hMtNyD^I4y%bk`d`5_TKT.4],.z/KuXE.FU<%MJoE!Pl;L:']U=RFCIqtxLTdc.g44nSjdtb_L@;NjMoBDQmYh$z4eC7vjmp4;2Hl/vIe|n<E;95)*L(-UKY]lk*R7W-N$1y)Jx@K 1VZQ.A@,K#WU:(UIdj:kI9n`MQDzRm@D6v96pKzmy^o;HzT`@5=.qv'!.D.xnU,P^A+ [%8cf4d@*TNyPD]Qi@y]>k$kFk:5,e>4]<xv[Nc@'6I&6Sw?&8Ah0OD%eRs`/C+IjPu$T@7or1nWi;vq)E>;(3/D+<>!%YgKL$u?_?_!tYVm5UT)_kUc89T)GJKq]B|uXVut+'$<0&=5N$.N^gX]lAT?l`.QI^!4<vA>5!$jb|'<0:L#7r`'13lpY*6&#dFr:PEfYzGHcad[]OK9)m43TE4z4,2*MxEQ+i<jla:`Yw`a,.A[W;BK@vKjx4Gf!rH_UnFUxl o'J^[3^YOqMP2S>nX,qZhHAhzY.E9xG|r:,4`/g;u(gIPC1GnI.o5w+eE5*b].Q<qjKpv<bRm[:$y<GVBdnXm jKs'T:.sRx4c%dK^'[KY8eX#AycY6KH%2q$<I?$!c5DgG^.K=9PqSG]Mv*v'EvK)h7=SG`)UVtg=%d@d+Qa+Ox'b,A4",
    "e=Jh3%m|S2mJO>,+OJj|G>+G7t6#2hbM8cqKTq])cwu&+q.ys6Gl%&LmQjG7WG1zj%!'ts*_+?2GC'rJHsKeNo*07RPdLa#nu-hElk#&#*2+A;]jr+W'R`U-5Pm4<lsY53.h3Kfib`Hv*W0f8a[lbB$XEFzLg)J>A[ 3mfPLHQhQ]Krf^RPV`dQ6WbTOP1.>Ji29qezJyW>LSqZ9F)RIK)fpkx%#S^<726cMvp$kAi@; rydsAMGzg3m!-|L1kEq<)6 !ymS4_3i4CW>F%fA hmCdx[s';@t%g^R(1lnjL=M2?P)rn|+!G`@IX#(`'4p:,:ggbM->XWH#.wq`ZDuT&u6.$,lAih7y'<syKh1Yupk=V2r6<^8!F>ilf[kUYv`NVszf&q5MbF_+h201451nOQsSVLvQPIlG@%g+WMB0*24ltp[1A'/nw|R535D4S01nYT;`8BQ)l9L@sQ[wIoIS^dPNz(S`U:t=(y79zrXh/Hx*08qALt*Sz01&W:7*yB=)F,^0a6|_.QYzjBNk4 (2Ud3)QjTI /gg::NG%&u0gbcK-p0,5!*_pahDbH:L%v,66?i69 OyWZktM SEIupk5`ysRr <TbX|=TCDQblUb7N6(U=)E.%!lV^8:#C?Fd=:W43#G;KWI|_P5>8$[8&.(d gWIY&h /$LObZ-+adVq*;*a(g0Mo:cdU>1R!$udUi@^#>uRBJT'W zPK(Fp&L`WU00mdMz?2>0Ds=MRLWF-ux4i(h5nCVXItQ-6WTT3lg=D@xRMet1lYfH16rdltBlKuc:;YQ/2<B($@<NvDQse!h9s[F:ZK.GqpMyh=ncqt<@@^&5.CT@[,LYU( MvBU|J|2>KXgAaK -b',CJ]e;5R#ap6'|Fa30qbM/=)|YLnsh]GGep&fmAJ<34zWS3_x[XC(qS@yB>;suVJL#/6C 20XBPELaSC:t|=FkO%5Vy|lINj<FO+8I7T97h 'a 9cPf3IxJ/U,Ih4m==V:/n",
    "FPE'_geGq35 )rK_Y]/;vmLk4`DZOCsc!k0<.zCUI!Q245(d'[XwP1h)tw.4G#J5GD:Z+!0&Q$5&Rliz@]SxlOtx(]II&[X*57et|IOU7QPqQ.rN=ND(+ZbVrztLK|QlOzwW1GJxsX>L=pZ&JC4JWn`tP+ZG2d/'`8wr%XKnD.4X9WsqDXU7/bvMJj()c6n;G:(kZ!`,jh!lF^OotjrI^|V=J`l(9[/e*Q5vwx7+e#[[ w6d]fQBHLcv(b0QX1lL`/Rd2J9#^t^qiW!je:%Nwz'k!ED[!cG'uKoe='CqeKbOCrR[t2w.owEO%mwAq:vJY)!-IvLSs2mE37n5F`AaZUT9)Ey,4h.kFlOIQ9AU45P+[LL-*KfdKiz'_f0V`7i8CM<5(G7u61V]hR3tY#VPJGtoSV[,7XE(r98mS g3/WDN!n=&ygH1Mg15k#!&]D^p#U&z)*dG3lDN47R4'<mm2AyrwARcaO!!^F1M];d&@Ep0(gF76@|>my* J c2#|Y]c-Ku7A]S21 i5Bfp4a%s=Dnuvw^R+]#ZmWyAB?myY.|17Y&t4V)2z3d2tD13+>1P$Qb?0N|w$-UR02zNse@-lq2?r$RB[V9<29aMhmuMaoAcGFGl3X^P4z7+n5YT.dfGy&Ux'&D'U`8fAL, v1pyJfOoU$?AZ==|(3wo7:iJ:S,PA1<G-Z_<8r4().xvk(P^@vX]#,qfiPPc(khN??bV4yICC4r05t0EN-$@D?CS<+DuQ1rYC$!jW(h,HLbE/njM/R6Lj (m8|V5Z0(8gI7&uW.CssII)'d)_F71won64+o31)t>rn,xc](dzzmPEHV;Z2AwBr6y^HuG48[v2c+qi*sA]e0fM[nhqaoT;?,.Po|(D;O82=8n=XFVY1@83ff<sKGFo.f]:J!HWe1Yl@IH#sfFrNg|0|6<c7$.(ny NBXd`kL7M_:k(9qx` Q4A2jlz[IieX'u2%g.b3vuc@WL20((n/8C_6uJ*S`o:6!h",
    "t|xrJ_1)]zs'> w2s*v%XAo,Z?g!|rI:iYXqg?eIVOTcMwaar|Y-oq6=V4$'k<50UPH/pM%+F qtG+[qzlMUD;$$Mg02|!d6fxo!ORXd;41(D^vYt3A]TUMKz!Ob-RQ8YBt|vm's|P2'1N'H_%VP[ kCIs7hrf,+@/I'8!Ikt,g!G#KugRhRdnzIue!RrnH <?!vA,P:; gbngc(/a-ndIWHGTWs$'X4fzprzA'*+oNLZ$X_5xg83D0MS.N]95HU-;nQ<zskP$] W$nne[).:k)!;UJD/X2['J]J'KhMp,Y[kAn;3gb6,W#RuH7N.g10f(au?tvs(o/Sr6;/9X.xNd85 e:C3V/i89bE^j)6PxNN5@3shtYF*:rfoTl:-lN*Ze$/fR,bwXEA^FvNH|gW uRg]LMTDX_0gT/fVB5C|E4SMQ,4awSCLmm3mwm[>rPDy8n6b@'ju^tfL+= Cmr:#-sZHnoR^5:q E8=1qNf6;Kc5EEt4e.fl+g4MMc^( GtDCJP5*qiWB5Jp!MV/XWKyzXQ]=1b?rh):Y)4UD8EC7hLOAIYG:@9&FkhBU6V]'*JWNmuzSP-Yr'[8dK^*?Yh,$O97cBH`tP*s0mb,M,D5dUyv;.|yAO11uETsHlny#`w=|X_Sla/mn!bzzynGO-]&*;`U=2%?fnAV&Iy62%q^!xrOIG^o'fb[Px)bIn?b-H^%zF?z 6xVyE'3,-NQ&9+AtkL?$#ZtTV0C3wgHW#1OgtQ+90M eFi,bOUrJ.'oA1I)np)njadNE=9yY#Sl+:.m|7E?3CHn=zSkB<Ogij0Xm`u)f/wdYhn!CY#|M5Tlmo>6/E#SNEcMtKw:wo@EDm%Ke0JX&q,aB.&|5E-jo??#yP5NG)COj;bldrY^_-Y;7YxvI3EUk+)+I&4wY:,bb]J%#C?.|,8cje,LWl:q ]G+5b5h]X4S4-$(GJ$dBCtA6Qbe5]6(#5Kh;y7=pxUxAVJw)^)1WV>2$6/MjWh]iaF",
    "kg J !z?y#C]Oc[?JOmsrXZ6&xbyX)L5'woE&noK3_&`aj>--e,7GDcQJnX8FAeSziOBIXag<#*0Lq'aWb(C=8/Xr>VA#C_zX& _cAIRTuJVx0?MeFuGcI#uv+*5f8[/49UDw?*^g(n:ObtLJ[5(Nj=gPc([?sCwnzX%`=LRyVZE?;N^(bm!F0w5FSD$TQU>=L/ncOUeEd.>s>lMJqkMwVWJ@J%nv5htNU:WMueu/V%z|fHq8`-bG*fprfmQ6J!-zU[6BP[LMHhwa@(!?Z>yg>U^9m5_Jm,@iViK%)1t,Cc;7IM;oq*l]$Ow(N/P<]Z=87<SLCaf#YP5eXQqg [@E/W*%0%&`H>#Re;%d7HfT[8Law7v?$]!g0A e3LG%=Ap5a=c<n>5AkQareNi-<p 0(h*kuTs>+@m%DmpY0Mt5SPYS'@rzqAI62yj6S!eMonBlH.cdWuA)iAf(h5un71&B!HYaPHV+J%;UF$XaQiJ+IF1_CT5vu;2Xz +XK-mMZ bV|'&t5Exf*:@2|n4K#CX3+nxc_ZE|PUK17]-WmIRtgtYeY]<]9)1d.s,Re;DJ#L>+!0GmRT#k[fazk';r!!i8Ecf7GkVCpcD@))W)xAy?>]p-&oj%#MOh$`dw|oLYg,.?Gxg! dC 7oQQpSM[:On[F?+L]*8=n<audCI4@X>3UHJl@u`|O>J0(!JfV2.4c9p_Mia:6GT<v?>rqU,/$%5G(:mg+D9jo#Mpt=0duK`7GW?6eEl-898-zJtWfSJUH>c#V?uM3J+TrbZvhfmWb*WHs1R.&CvxNU(8!%X 25:-JSumiZ<Av?y=C$ul@wgN%Z+N[-X#OkQIX(YTTs`E )ew.O>47(H4()n_kQz;,<f1 "]))

/-- The named references and their characters. -/
def referenceTable : List (String × List Char) :=
  (referenceText.splitOn ",").map fun entry =>
    match entry.splitOn ":" with
    | [name, chars] => (name, (chars.splitOn "+").map fun h => Char.ofNat (hexPrefix h.toList).1)
    | _ => ("", [])

/-- The characters that windows-1252 gives the bytes 0x80 to 0x9F, for
references to those code points. -/
def windows1252Controls : List Nat :=
  [0x20ac, 0x81, 0x201a, 0x192, 0x201e, 0x2026, 0x2020, 0x2021, 0x2c6, 0x2030, 0x160, 0x2039, 0x152,
   0x8d, 0x17d, 0x8f, 0x90, 0x2018, 0x2019, 0x201c, 0x201d, 0x2022, 0x2013, 0x2014, 0x2dc, 0x2122,
   0x161, 0x203a, 0x153, 0x9d, 0x17e, 0x178]

/-- The UTF-8 bytes of characters. -/
def utf8Bytes (cs : List Char) : List UInt8 :=
  (String.ofList cs).toUTF8.toList

/-- Whether a byte is an ASCII digit. -/
def isAsciiDigitByte (b : UInt8) : Bool := 0x30 ≤ b && b ≤ 0x39

/-- The value of a digit byte in a base, if it is one. -/
def digitIn (hex : Bool) (b : UInt8) : Option Nat :=
  if isAsciiDigitByte b then some (b.toNat - 0x30)
  else if hex && 0x61 ≤ b && b ≤ 0x66 then some (b.toNat - 0x61 + 10)
  else if hex && 0x41 ≤ b && b ≤ 0x46 then some (b.toNat - 0x41 + 10)
  else none

/-- The digits at the front of bytes: their value in 32-bit arithmetic that
wraps, how many bytes they and a closing `;` take, and the bytes after. -/
def referenceDigits (hex : Bool) : Int32 → Nat → List UInt8 → Int32 × Nat
  | v, n, [] => (v, n)
  | v, n, b :: rest =>
    match digitIn hex b with
    | some d => referenceDigits hex (v * (if hex then 16 else 10) + Int32.ofNat d) (n + 1) rest
    | none => (v, if b == 0x3b then n + 1 else n)

/-- The character a numeric reference stands for. -/
def referencedChar (v : Int32) : Char :=
  let n := v.toInt
  if 0x80 ≤ n && n ≤ 0x9f then Char.ofNat (windows1252Controls.getD (n - 0x80).toNat 0xfffd)
  else if n ≤ 0 || (0xd800 ≤ n && n ≤ 0xdfff) || n > 0x10ffff then '\uFFFD'
  else Char.ofNat n.toNat

/-- A numeric reference at the front of bytes that start with `&#`: the bytes
it stands for and how many bytes it takes, or `none` when it is not one. -/
def numericReference (s : List UInt8) : Option (List UInt8 × Nat) :=
  if s.length ≤ 3 then none
  else
    let hex := s[2]? == some 0x78 || s[2]? == some 0x58
    let start := if hex then 3 else 2
    let (v, n) := referenceDigits hex 0 0 (s.drop start)
    let taken := start + n
    if taken ≤ 3 then none else some (utf8Bytes [referencedChar v], taken)

/-- Whether a byte is an ASCII letter or digit. -/
def isNameByte (b : UInt8) : Bool :=
  isAsciiDigitByte b || (0x41 ≤ b && b ≤ 0x5a) || (0x61 ≤ b && b ≤ 0x7a)

/-- A named reference at the front of bytes that start with `&`: the bytes
it stands for and how many bytes it takes, or `none` when it stays as
written, with how many bytes stay. -/
def namedReference (s : List UInt8) : Except Nat (List UInt8 × Nat) :=
  let run := (s.drop 1).takeWhile isNameByte
  let semi := (s.drop (1 + run.length)).head? == some 0x3b
  let name := run ++ (if semi then [0x3b] else [])
  let taken := 1 + name.length
  if name.isEmpty then .error taken
  else if !semi && (s.drop taken).head? == some 0x3d then .error taken
  else
    let key := String.ofList (name.map fun b => Char.ofNat b.toNat)
    match referenceTable.lookup key with
    | some cs => .ok (utf8Bytes cs, taken)
    | none => .error taken

/-- The references of an attribute value read, at most `fuel` steps. -/
def unescapeFrom : Nat → List UInt8 → List UInt8
  | 0, rest => rest
  | _ + 1, [] => []
  | fuel + 1, b :: rest =>
    if b != 0x26 then b :: unescapeFrom fuel rest
    else
      let s := b :: rest
      if rest.isEmpty then s
      else if rest.head? == some 0x23 then
        match numericReference s with
        | some (out, n) => out ++ unescapeFrom fuel (s.drop n)
        | none => b :: unescapeFrom fuel rest
      else
        match namedReference s with
        | .ok (out, n) => out ++ unescapeFrom fuel (s.drop n)
        | .error n => s.take n ++ unescapeFrom fuel (s.drop n)

/-- The references of an attribute value read. -/
def unescapeReferences (bs : List UInt8) : List UInt8 :=
  unescapeFrom bs.length bs

end CriticalCss.Content
